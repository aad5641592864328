/-
This file defines percent escapes.  An escaped character is written as its UTF-8 bytes, each with
a percent sign and two hexadecimal digits.
-/

import RpcDispatch.Text.Utf8

namespace RpcDispatch.Url

def upperHexDigit (value : Nat) : Char :=
  (Nat.digitChar value).toUpper

def escapeByte (byte : UInt8) : List Char :=
  ['%', upperHexDigit (byte.toNat / 16), upperHexDigit (byte.toNat % 16)]

def escapeChar (character : Char) : List Char :=
  (Text.Utf8.encodeChar character).flatMap escapeByte

/-- Escapes the characters that `mustEscape` holds of.  A percent sign stays as it is, so escapes
are not escaped again. -/
def escapeWhere (mustEscape : Char → Bool) (characters : List Char) : List Char :=
  characters.flatMap fun character =>
    if mustEscape character then escapeChar character else [character]

/-- Controls and characters beyond ASCII are escaped in every part of a URL. -/
def isUnsafe (character : Char) : Bool :=
  character < ' ' || '~' < character

/-- The characters that are escaped in the segments of a path. -/
def isUnsafeInPath (character : Char) : Bool :=
  isUnsafe character || [' ', '"', '#', '<', '>', '?', '\x60', '{', '}'].contains character

/-- The value of a hexadecimal digit. -/
def hexValue? (character : Char) : Option Nat :=
  if character.isDigit then some (character.toNat - 48)
  else if 'a' ≤ character && character ≤ 'f' then some (character.toNat - 87)
  else if 'A' ≤ character && character ≤ 'F' then some (character.toNat - 55)
  else none

/-- The bytes of a text whose escapes stand for the bytes they name. -/
def unescape : List Char → Bytes
  | [] => []
  | '%' :: high :: low :: rest =>
    match hexValue? high, hexValue? low with
    | some high, some low => (high * 16 + low).toUInt8 :: unescape rest
    | _, _ => 0x25 :: unescape (high :: low :: rest)
  | character :: rest => Text.Utf8.encodeChar character ++ unescape rest

end RpcDispatch.Url
