/-
This file takes the controls of terminals out of text.  A control sequence begins with an escape
character and leaves no trace; of single control characters only blanks are kept.
-/

import RpcDispatch.Text.Utf8

namespace RpcDispatch.Text.Terminal

/-- Where a text stands in a control sequence. -/
inductive Place where
  | ground
  | escape
  /-- After the introducer of a sequence that one letter ends. -/
  | sequence
  /-- After blanks or punctuation that delay the end of an escape. -/
  | delayed
  /-- In a title, which a bell ends. -/
  | title
  /-- In a string that only another control ends. -/
  | data
  deriving DecidableEq

namespace Place

/-- The place after a byte that does not show.  An escape begins anew in every place. -/
def next (place : Place) (byte : UInt8) : Place :=
  if byte = 0x18 || byte = 0x1A then .ground
  else if byte = 0x1B then .escape
  else
    match place with
    | .ground => .ground
    | .escape =>
      if byte = 0x5B then .sequence
      else if byte = 0x5D then .title
      else if [0x50, 0x58, 0x5E, 0x5F].contains byte then .data
      else if 0x20 ≤ byte && byte < 0x30 then .delayed
      else if 0x30 ≤ byte && byte < 0x7F then .ground
      else .escape
    | .sequence => if 0x40 ≤ byte && byte < 0x7F then .ground else .sequence
    | .delayed => if 0x30 ≤ byte && byte < 0x7F then .ground else .delayed
    | .title => if byte = 0x07 then .ground else .title
    | .data => if byte = 0x9C then .ground else .data

/-- Whether a byte shows.  Blanks show between the bytes of short sequences too. -/
def shows (place : Place) (byte : UInt8) : Bool :=
  let isBlank := [0x09, 0x0A, 0x0C, 0x0D].contains byte
  match place with
  | .ground => isBlank || 0x20 ≤ byte && byte < 0x7F || 0xC2 ≤ byte
  | .title | .data => false
  | _ => isBlank

end Place

/-- The bytes that show.  After one that shows, the others show as they do on the ground, up to the
next that does not. -/
def shown : (place : Place) → (isShowing : Bool) → Bytes → Bytes
  | _, _, [] => []
  | place, isShowing, byte :: rest =>
    if isShowing && 0x80 ≤ byte then byte :: shown .ground true rest
    else if (if isShowing then Place.ground else place).shows byte then
      byte :: shown (if byte < 0x80 then place else .ground) true rest
    else shown (place.next byte) false rest

/-- The text that a terminal would show, without colours. -/
def plain (text : String) : String :=
  Utf8.decodeLossy (shown .ground false (Utf8.encode text))

/-- A text that a terminal sets off from the others. -/
def highlighted (text : String) : String :=
  "\x1b[1m" ++ text ++ "\x1b[0m"

end RpcDispatch.Text.Terminal
