/-
This file reads the parts of JSON text that hold no other value: blanks, words, strings and
numbers.  Every reader takes bytes off the front of its input.
-/

import RpcDispatch.Decimal.Scientific
import RpcDispatch.Json.Failure
import RpcDispatch.Json.Value
import RpcDispatch.Text.Utf8

namespace RpcDispatch.Json

/-- A reader gives a result and the bytes that it left. -/
abbrev Reader (α : Type) := Bytes → Except Failure (α × Bytes)

def isBlank (byte : UInt8) : Bool :=
  byte == 32 || byte == 9 || byte == 10 || byte == 13

def skipBlanks (input : Bytes) : Bytes :=
  input.dropWhile isBlank

def isDigit (byte : UInt8) : Bool :=
  48 ≤ byte && byte ≤ 57

def digitValue (byte : UInt8) : Nat :=
  byte.toNat - 48

/-- What the next byte begins. -/
inductive Lead where
  | absent
  | nullWord
  | trueWord
  | falseWord
  | minus
  | digit
  | quote
  | bracket
  | brace
  | other
  deriving DecidableEq

def Lead.ofInput : Bytes → Lead
  | [] => .absent
  | 110 :: _ => .nullWord
  | 116 :: _ => .trueWord
  | 102 :: _ => .falseWord
  | 45 :: _ => .minus
  | 34 :: _ => .quote
  | 91 :: _ => .bracket
  | 123 :: _ => .brace
  | byte :: _ => if isDigit byte then .digit else .other

/-- The letters after the first letter of a word. -/
def readWord : (letters : Bytes) → Reader Unit
  | [], input => .ok ((), input)
  | _ :: _, [] => .error (.after .endOfValue [])
  | letter :: letters, byte :: rest =>
    if byte = letter then readWord letters rest else .error (.after .expectedIdent rest)

def readNull (input : Bytes) : Except Failure (Unit × Bytes) :=
  readWord [117, 108, 108] input.tail

def readTrue (input : Bytes) : Except Failure (Unit × Bytes) :=
  readWord [114, 117, 101] input.tail

def readFalse (input : Bytes) : Except Failure (Unit × Bytes) :=
  readWord [97, 108, 115, 101] input.tail

/-! ### Strings -/

def hexValue? (byte : UInt8) : Option Nat :=
  if isDigit byte then some (digitValue byte)
  else if 97 ≤ byte && byte ≤ 102 then some (byte.toNat - 87)
  else if 65 ≤ byte && byte ≤ 70 then some (byte.toNat - 55)
  else none

/-- The four hexadecimal digits after `\u`. -/
def readHexEscape : Reader Nat
  | first :: second :: third :: fourth :: rest =>
    match hexValue? first, hexValue? second, hexValue? third, hexValue? fourth with
    | some first, some second, some third, some fourth =>
      .ok (((first * 16 + second) * 16 + third) * 16 + fourth, rest)
    | _, _, _, _ => .error (.after .invalidEscape rest)
  | _ => .error (.after .endOfString [])

def isHighSurrogate (unit : Nat) : Bool :=
  0xD800 ≤ unit && unit ≤ 0xDBFF

def isLowSurrogate (unit : Nat) : Bool :=
  0xDC00 ≤ unit && unit ≤ 0xDFFF

/-- The low surrogate that has to follow a high one. -/
def readLowSurrogate : Reader Nat
  | [] => .error (.after .endOfString [])
  | 92 :: [] => .error (.after .endOfString [])
  | 92 :: 117 :: rest =>
    match readHexEscape rest with
    | .ok (unit, rest) =>
      if isLowSurrogate unit then .ok (unit, rest) else .error (.after .loneSurrogate rest)
    | .error failure => .error failure
  | 92 :: _ :: rest => .error (.after .unfinishedSurrogate rest)
  | _ :: rest => .error (.after .unfinishedSurrogate rest)

/-- The character of a `\u` escape, which takes two escapes beyond the first plane. -/
def readUnicodeEscape (input : Bytes) : Except Failure (Bytes × Bytes) :=
  match readHexEscape input with
  | .error failure => .error failure
  | .ok (unit, rest) =>
    if isLowSurrogate unit then .error (.after .loneSurrogate rest)
    else if isHighSurrogate unit then
      match readLowSurrogate rest with
      | .error failure => .error failure
      | .ok (low, rest) =>
        .ok (Text.Utf8.encodeChar
          (Char.ofNat ((unit - 0xD800) * 1024 + (low - 0xDC00) + 0x10000)), rest)
    else .ok (Text.Utf8.encodeChar (Char.ofNat unit), rest)

/-- The bytes that an escape stands for; the reader starts after the backslash. -/
def readEscape : Reader Bytes
  | [] => .error (.after .endOfString [])
  | 34 :: rest => .ok ([34], rest)
  | 92 :: rest => .ok ([92], rest)
  | 47 :: rest => .ok ([47], rest)
  | 98 :: rest => .ok ([8], rest)
  | 102 :: rest => .ok ([12], rest)
  | 110 :: rest => .ok ([10], rest)
  | 114 :: rest => .ok ([13], rest)
  | 116 :: rest => .ok ([9], rest)
  | 117 :: rest => readUnicodeEscape rest
  | _ :: rest => .error (.after .invalidEscape rest)

/-- The bytes of a string after its opening quote, taken one or one escape at a time. -/
def readStringBytes : (fuel : Nat) → (reversed : Bytes) → Reader Bytes
  | 0, _, input => .error (.after .endOfString input)
  | _ + 1, _, [] => .error (.after .endOfString [])
  | fuel + 1, reversed, byte :: rest =>
    if byte = 34 then .ok (reversed.reverse, rest)
    else if byte = 92 then
      match readEscape rest with
      | .ok (bytes, rest) => readStringBytes fuel (bytes.reverse ++ reversed) rest
      | .error failure => .error failure
    else if byte < 32 then .error (.after .controlCharacter rest)
    else readStringBytes fuel (byte :: reversed) rest

/-- A string from its opening quote on. -/
def readString (input : Bytes) : Except Failure (String × Bytes) :=
  match readStringBytes input.length [] input.tail with
  | .error failure => .error failure
  | .ok (bytes, rest) =>
    match Text.Utf8.decodeLongest bytes with
    | (characters, []) => .ok (String.ofList characters, rest)
    | (_, unread) => .error (.after (.invalidCodePoint unread.length) rest)

/-! ### Numbers -/

/-- The digits of a number as far as they fit an unsigned 64-bit integer, with the decimal
exponent that the other digits leave. -/
structure Significand where
  value : Nat
  exponent : Int
  full : Bool

namespace Significand

/-- Whether one more digit still fits. -/
def admits (significand : Significand) (digit : Nat) : Bool :=
  significand.value * 10 + digit < 0x10000000000000000

/-- A digit before the point raises the exponent when it no longer fits. -/
def pushInteger (significand : Significand) (digit : Nat) : Significand :=
  if !significand.full && significand.admits digit then
    { significand with value := significand.value * 10 + digit }
  else { significand with exponent := significand.exponent + 1, full := true }

/-- A digit after the point is left out when it no longer fits. -/
def pushFraction (significand : Significand) (digit : Nat) : Significand :=
  if !significand.full && significand.admits digit then
    { significand with
      value := significand.value * 10 + digit, exponent := significand.exponent - 1 }
  else { significand with full := true }

end Significand

/-- The digits of a run and the bytes after it. -/
def takeDigits (input : Bytes) : List Nat × Bytes :=
  ((input.takeWhile isDigit).map digitValue, input.dropWhile isDigit)

/-- The digits before the point: a zero stands alone. -/
def readIntegerPart : Reader Significand
  | [] => .error (.after .endOfValue [])
  | first :: rest =>
    if first = 48 then
      match rest with
      | next :: _ =>
        if isDigit next then .error (.here .invalidNumber rest) else .ok (⟨0, 0, false⟩, rest)
      | [] => .ok (⟨0, 0, false⟩, [])
    else if isDigit first then
      let (digits, rest) := takeDigits (first :: rest)
      .ok (digits.foldl Significand.pushInteger ⟨0, 0, false⟩, rest)
    else .error (.after .invalidNumber rest)

/-- The digits after the point, of which there is at least one. -/
def readFraction (significand : Significand) (input : Bytes) :
    Except Failure (Significand × Bytes) :=
  match takeDigits input with
  | ([], []) => .error (.here .endOfValue [])
  | ([], rest) => .error (.here .invalidNumber rest)
  | (digits, rest) =>
    .ok (digits.foldl Significand.pushFraction { significand with full := false }, rest)

/-- The sign of an exponent: true is positive. -/
def readExponentSign : Bytes → Bool × Bytes
  | 43 :: rest => (true, rest)
  | 45 :: rest => (false, rest)
  | input => (true, input)

/-- The value of an exponent that fits a signed 32-bit integer, or the bytes left after the first
digit that makes it too large. -/
def exponentValue : (value : Nat) → Reader Nat
  | value, [] => .ok (value, [])
  | value, byte :: rest =>
    if isDigit byte then
      if value * 10 + digitValue byte < 0x80000000 then
        exponentValue (value * 10 + digitValue byte) rest
      else .error (.after .numberOutOfRange rest)
    else .ok (value, byte :: rest)

/-- The number that a sign, digits and an exponent denote. -/
def floatNumber (positive : Bool) (significand : Significand) (exponent : Int) :
    Reader Number := fun rest =>
  match Decimal.ofScientific? significand.value (significand.exponent + exponent) with
  | some value => .ok (.float (if positive then value else -value).toBits, rest)
  | none => .error (.after .numberOutOfRange rest)

/-- The exponent after `e` and its effect on the digits.  One that is too large makes zero of a
number that is zero or has a negative exponent. -/
def readExponent (positive : Bool) (significand : Significand) (input : Bytes) :
    Except Failure (Number × Bytes) :=
  match readExponentSign input with
  | (_, []) => .error (.after .endOfValue [])
  | (positiveExponent, first :: rest) =>
    if isDigit first then
      match exponentValue (digitValue first) rest with
      | .ok (value, rest) =>
        floatNumber positive significand (if positiveExponent then value else -value) rest
      | .error failure =>
        if significand.value = 0 || !positiveExponent then
          .ok (.float (if positive then (0 : Float) else -0).toBits,
            failure.rest.dropWhile isDigit)
        else .error failure
    else .error (.after .invalidNumber rest)

/-- An integer that fits 64 bits is kept, except that minus zero is a float. -/
def integerNumber (positive : Bool) (significand : Significand) : Reader Number := fun rest =>
  if significand.full then floatNumber positive significand 0 rest
  else if positive then .ok (.integer significand.value, rest)
  else if 0 < significand.value && significand.value ≤ 0x8000000000000000 then
    .ok (.integer (-significand.value), rest)
  else floatNumber positive significand 0 rest

/-- What may follow the digits before the point. -/
def readNumberTail (positive : Bool) (significand : Significand) (input : Bytes) :
    Except Failure (Number × Bytes) :=
  match input with
  | 46 :: rest =>
    match readFraction significand rest with
    | .error failure => .error failure
    | .ok (significand, 101 :: rest) => readExponent positive significand rest
    | .ok (significand, 69 :: rest) => readExponent positive significand rest
    | .ok (significand, rest) => floatNumber positive significand 0 rest
  | 101 :: rest => readExponent positive significand rest
  | 69 :: rest => readExponent positive significand rest
  | rest => integerNumber positive significand rest

/-- A number after its sign. -/
def readUnsigned (positive : Bool) (input : Bytes) : Except Failure (Number × Bytes) :=
  match readIntegerPart input with
  | .error failure => .error failure
  | .ok (significand, rest) => readNumberTail positive significand rest

/-- A number from its sign or first digit on. -/
def readNumber : Reader Number
  | 45 :: rest => readUnsigned false rest
  | input => readUnsigned true input

end RpcDispatch.Json
