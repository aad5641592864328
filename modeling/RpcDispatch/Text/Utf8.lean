/-
This file holds the UTF-8 form of text.  A sequence is well formed when every character has its
shortest form and is a Unicode scalar value.
-/

import RpcDispatch.Bytes

namespace RpcDispatch.Text.Utf8

/-- Every byte after the first byte of a character has the two top bits `10`. -/
def isContinuation (byte : UInt8) : Bool :=
  0x80 ≤ byte && byte < 0xC0

/-- The six low bits of a continuation byte. -/
def payload (byte : UInt8) : Nat :=
  byte.toNat - 0x80

/-- A code point of at least `least` that is a scalar value gives its character. -/
def scalar? (least code : Nat) : Option Char :=
  if least ≤ code ∧ code.isValidChar then some (Char.ofNat code) else none

/-- The first character of a byte sequence and the bytes after it. -/
def head? : Bytes → Option (Char × Bytes)
  | [] => none
  | first :: rest =>
    if first < 0x80 then some (Char.ofNat first.toNat, rest)
    else if first < 0xC0 then none
    else if first < 0xE0 then
      match rest with
      | second :: rest =>
        if isContinuation second then
          (scalar? 0x80 ((first.toNat - 0xC0) * 64 + payload second)).map (·, rest)
        else none
      | _ => none
    else if first < 0xF0 then
      match rest with
      | second :: third :: rest =>
        if isContinuation second && isContinuation third then
          (scalar? 0x800 (((first.toNat - 0xE0) * 64 + payload second) * 64 + payload third)).map
            (·, rest)
        else none
      | _ => none
    else if first < 0xF8 then
      match rest with
      | second :: third :: fourth :: rest =>
        if isContinuation second && isContinuation third && isContinuation fourth then
          (scalar? 0x10000 ((((first.toNat - 0xF0) * 64 + payload second) * 64
            + payload third) * 64 + payload fourth)).map (·, rest)
        else none
      | _ => none
    else none

/-- Reads at most `fuel` characters and stops at the first byte that starts none. -/
def decodePrefix : (fuel : Nat) → (read : List Char) → Bytes → List Char × Bytes
  | 0, read, bytes => (read.reverse, bytes)
  | fuel + 1, read, bytes =>
    match head? bytes with
    | some (character, rest) => decodePrefix fuel (character :: read) rest
    | none => (read.reverse, bytes)

/-- The characters of the longest well-formed beginning and the bytes after it. -/
def decodeLongest (bytes : Bytes) : List Char × Bytes :=
  decodePrefix bytes.length [] bytes

/-- The text of a well-formed sequence. -/
def decode? (bytes : Bytes) : Option String :=
  match decodeLongest bytes with
  | (characters, []) => some (String.ofList characters)
  | _ => none

/-- The bytes of one character. -/
def encodeChar (character : Char) : Bytes :=
  let code := character.toNat
  if code < 0x80 then [code.toUInt8]
  else if code < 0x800 then [(0xC0 + code / 64).toUInt8, (0x80 + code % 64).toUInt8]
  else if code < 0x10000 then
    [(0xE0 + code / 4096).toUInt8, (0x80 + code / 64 % 64).toUInt8, (0x80 + code % 64).toUInt8]
  else
    [(0xF0 + code / 262144).toUInt8, (0x80 + code / 4096 % 64).toUInt8,
      (0x80 + code / 64 % 64).toUInt8, (0x80 + code % 64).toUInt8]

/-- The bytes of a text. -/
def encode (text : String) : Bytes :=
  text.toList.flatMap encodeChar

/-! ### Ill-formed sequences -/

/-- The second bytes that may follow the first byte of a character of three or four bytes. -/
def isSecond (first second : UInt8) : Bool :=
  let least : UInt8 := if first = 0xE0 then 0xA0 else if first = 0xF0 then 0x90 else 0x80
  let greatest : UInt8 := if first = 0xED then 0x9F else if first = 0xF4 then 0x8F else 0xBF
  least ≤ second && second ≤ greatest

/-- How many bytes of a sequence that starts with no character are the beginning of one. -/
def brokenLength : Bytes → Nat
  | first :: second :: rest =>
    if 0xE0 ≤ first && first < 0xF5 && isSecond first second then
      match rest with
      | third :: _ => if 0xF0 ≤ first && isContinuation third then 3 else 2
      | [] => 2
    else 1
  | _ => 1

/-- Reads at most `fuel` characters, with a replacement for each broken one. -/
def decodeBroken : (fuel : Nat) → Bytes → List Char
  | 0, _ => []
  | _, [] => []
  | fuel + 1, bytes =>
    match head? bytes with
    | some (character, rest) => character :: decodeBroken fuel rest
    | none => '\uFFFD' :: decodeBroken fuel (bytes.drop (brokenLength bytes))

/-- The text of any sequence. -/
def decodeLossy (bytes : Bytes) : String :=
  String.ofList (decodeBroken bytes.length bytes)

end RpcDispatch.Text.Utf8
