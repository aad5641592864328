/-
This file passes over values that nobody reads.  They may nest to any depth, their strings need
not be text and their numbers may be of any size.
-/

import RpcDispatch.Json.Lexeme

namespace RpcDispatch.Json

/-- A container that has been opened. -/
inductive Enclosure where
  | array
  | object
  deriving DecidableEq

namespace Enclosure

def closer : Enclosure → UInt8
  | .array => 93
  | .object => 125

def ended : Enclosure → Cause
  | .array => .endOfList
  | .object => .endOfObject

def expectedEnd : Enclosure → Cause
  | .array => .expectedListEnd
  | .object => .expectedObjectEnd

end Enclosure

/-! ### Strings and numbers -/

/-- An escape after its backslash: four digits follow `u`, which may name any unit. -/
def skipEscape : Reader Unit
  | [] => .error (.after .endOfString [])
  | 117 :: rest => (readHexEscape rest).map fun (_, rest) => ((), rest)
  | byte :: rest =>
    if [34, 92, 47, 98, 102, 110, 114, 116].contains byte then .ok ((), rest)
    else .error (.after .invalidEscape rest)

/-- A string after its opening quote. -/
def skipString : (fuel : Nat) → Reader Unit
  | 0, input => .error (.after .endOfString input)
  | _ + 1, [] => .error (.after .endOfString [])
  | fuel + 1, byte :: rest =>
    if byte = 34 then .ok ((), rest)
    else if byte = 92 then
      match skipEscape rest with
      | .ok ((), rest) => skipString fuel rest
      | .error failure => .error failure
    else if byte < 32 then .error (.after .controlCharacter (byte :: rest))
    else skipString fuel rest

/-- An exponent after its letter. -/
def skipExponent (input : Bytes) : Except Failure (Unit × Bytes) :=
  match (readExponentSign input).2 with
  | [] => .error (.after .invalidNumber [])
  | byte :: rest =>
    if isDigit byte then .ok ((), rest.dropWhile isDigit)
    else .error (.after .invalidNumber rest)

/-- What may follow the digits of a number. -/
def skipExponentPart : Reader Unit
  | 101 :: rest => skipExponent rest
  | 69 :: rest => skipExponent rest
  | rest => .ok ((), rest)

def skipFraction : Reader Unit
  | 46 :: rest =>
    match rest with
    | [] => .error (.here .invalidNumber [])
    | byte :: digits =>
      if isDigit byte then skipExponentPart (digits.dropWhile isDigit)
      else .error (.here .invalidNumber rest)
  | rest => skipExponentPart rest

/-- A number after its sign. -/
def skipUnsigned : Reader Unit
  | [] => .error (.after .invalidNumber [])
  | byte :: rest =>
    if byte = 48 then
      match rest with
      | [] => .ok ((), [])
      | next :: _ =>
        if isDigit next then .error (.here .invalidNumber rest) else skipFraction rest
    else if isDigit byte then skipFraction (rest.dropWhile isDigit)
    else .error (.after .invalidNumber rest)

/-! ### Values -/

/-- The opening of a container, or a whole value of another kind. -/
def skipOpening (input : Bytes) : Except Failure (Option Enclosure × Bytes) :=
  let scalar (result : Except Failure (Unit × Bytes)) : Except Failure (Option Enclosure × Bytes) :=
    result.map fun (_, rest) => (none, rest)
  match Lead.ofInput input with
  | .absent => .error (.here .endOfValue input)
  | .nullWord => scalar (readNull input)
  | .trueWord => scalar (readTrue input)
  | .falseWord => scalar (readFalse input)
  | .minus => scalar (skipUnsigned input.tail)
  | .digit => scalar (skipUnsigned input)
  | .quote => scalar (skipString input.length input.tail)
  | .bracket => .ok (some .array, input.tail)
  | .brace => .ok (some .object, input.tail)
  | .other => .error (.here .expectedValue input)

/-- Closes containers until one of them goes on.  A comma is admitted after a value only. -/
def skipClosers : (stack : List Enclosure) → (comma : Bool) →
    Bytes → Except Failure (List Enclosure × Bytes)
  | [], _, rest => .ok ([], rest)
  | enclosure :: stack, comma, input =>
    match skipBlanks input with
    | [] => .error (.here enclosure.ended [])
    | byte :: rest =>
      if byte = 44 && comma then .ok (enclosure :: stack, rest)
      else if byte = enclosure.closer then skipClosers stack true rest
      else if comma then .error (.here enclosure.expectedEnd (byte :: rest))
      else .ok (enclosure :: stack, byte :: rest)

/-- The name and colon before a member's value. -/
def skipName (input : Bytes) : Except Failure (Unit × Bytes) :=
  match skipBlanks input with
  | [] => .error (.here .endOfObject [])
  | 34 :: rest =>
    match skipString input.length rest with
    | .error failure => .error failure
    | .ok ((), rest) =>
      match skipBlanks rest with
      | [] => .error (.here .endOfObject [])
      | 58 :: rest => .ok ((), rest)
      | rest => .error (.here .expectedColon rest)
  | rest => .error (.here .keyNotString rest)

/-- Passes over values until no container is open. -/
def skipValues : (fuel : Nat) → (stack : List Enclosure) → Reader Unit
  | 0, _, input => .error (.here .endOfValue input)
  | fuel + 1, stack, input =>
    match skipOpening (skipBlanks input) with
    | .error failure => .error failure
    | .ok (opened, rest) =>
      match skipClosers (opened.toList ++ stack) opened.isNone rest with
      | .error failure => .error failure
      | .ok ([], rest) => .ok ((), rest)
      | .ok (.array :: stack, rest) => skipValues fuel (.array :: stack) rest
      | .ok (.object :: stack, rest) =>
        match skipName rest with
        | .error failure => .error failure
        | .ok ((), rest) => skipValues fuel (.object :: stack) rest

/-- Passes over one value. -/
def skipValue (fuel : Nat) : Reader Unit :=
  skipValues fuel []

end RpcDispatch.Json
