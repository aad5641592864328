/-
This file tells which texts are domain names.  A name is taken without what is left out, with the
characters that stand for others replaced; each of its labels has to be well formed, also one that
is written in ASCII for other characters.
-/

import RpcDispatch.Text.Split
import RpcDispatch.Url.Domain.Direction
import RpcDispatch.Url.Domain.Folding
import RpcDispatch.Url.Domain.Joiner
import RpcDispatch.Url.Domain.Punycode
import RpcDispatch.Url.Domain.Standing

namespace RpcDispatch.Url.Domain

/-- The characters of ASCII that stand in no name. -/
def isDenied (character : Char) : Bool :=
  character ≤ ' ' || ['\x7f', '#', '%', '/', ':', '<', '>', '?', '@', '[', '\\', ']', '^',
    '|'].contains character

/-- A stroke through an angle bracket makes one character of both. -/
def joinStrokes : List Char → List Char
  | [] => []
  | character :: rest =>
    let isStruck := (rest.takeWhile (0 < markOrder ·)).contains '\u0338'
    (if isStruck && character = '<' then '≮' else if isStruck && character = '>' then '≯'
      else character) :: joinStrokes rest

/-- The characters that a name stands for, unless one is refused. -/
def replace? (name : List Char) : Option (List Char) :=
  if name.any fun character => Standing.of character = .refused then none
  else
    let kept := name.filter fun character => Standing.of character ≠ .ignored
    let replaced := joinStrokes (kept.flatMap folded)
    if replaced.any isDenied then none else some replaced

/-! ### Labels -/

/-- A label in ASCII stands for at most this many characters, and another label has at most half of
them. -/
def maxEncodedLength : Nat := 2000

/-- A label that is written in ASCII stands for characters that are kept as they are, at least one
of them beyond ASCII. -/
def decodeLabel? (encoded : List Char) : Option (List Char) :=
  if encoded.isEmpty || encoded.getLast? = some '-' || maxEncodedLength < encoded.length then none
  else
    match Punycode.decode? encoded with
    | none => none
    | some label =>
      if label.all (fun character =>
          Standing.of character = .kept && !isDenied character && character ≠ '.')
          && isComposed label then
        some label
      else none

/-- What a label stands for. -/
def readLabel? : List Char → Option (List Char)
  | 'x' :: 'n' :: '-' :: '-' :: encoded => decodeLabel? encoded
  | label => some label

/-- A label starts with no mark, has its joiners in place and is not too long. -/
def isWellFormed (label : List Char) : Bool :=
  !label.head?.any isMark && areJoinersPlaced [] label
    && (label.all (· ≤ '\x7f') || label.length ≤ maxEncodedLength / 2)

/-- The name that a text stands for, if it is one. -/
def normalize? (text : List Char) : Option (List Char) := do
  let name ← replace? text
  let labels ← (Text.splitAt '.' name).mapM readLabel?
  if labels.all isWellFormed && areReadable labels then some name else none

end RpcDispatch.Url.Domain
