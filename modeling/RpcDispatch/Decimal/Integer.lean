/-
This file reads integers in decimal digits, with a sign before them and within bounds.
-/

namespace RpcDispatch.Decimal

inductive IntegerFault where
  | empty
  | invalidDigit
  | tooLarge
  | tooSmall
  deriving DecidableEq

def IntegerFault.message : IntegerFault → String
  | .empty => "cannot parse integer from empty string"
  | .invalidDigit => "invalid digit found in string"
  | .tooLarge => "number too large to fit in target type"
  | .tooSmall => "number too small to fit in target type"

/-- Adds digits to a number.  The first fault from the left counts: a character that is no digit,
or a digit that takes the number beyond `limit`. -/
def readDigits (limit : Nat) (overflow : IntegerFault) :
    (value : Nat) → List Char → Except IntegerFault Nat
  | value, [] => .ok value
  | value, character :: rest =>
    if character.isDigit then
      let value := value * 10 + (character.toNat - 48)
      if value ≤ limit then readDigits limit overflow value rest else .error overflow
    else .error .invalidDigit

/-- One digit or more. -/
def readMagnitude (limit : Nat) (overflow : IntegerFault) (digits : List Char) :
    Except IntegerFault Nat :=
  if digits.isEmpty then .error .invalidDigit else readDigits limit overflow 0 digits

/-- A number between zero and `limit`. -/
def parseUnsigned (limit : Nat) (text : String) : Except IntegerFault Nat :=
  match text.toList with
  | [] => .error .empty
  | '+' :: digits => readMagnitude limit .tooLarge digits
  | digits => readMagnitude limit .tooLarge digits

/-- A number of 64 bits with a sign. -/
def parseSigned64 (text : String) : Except IntegerFault Int :=
  match text.toList with
  | [] => .error .empty
  | '-' :: digits => (readMagnitude 0x8000000000000000 .tooSmall digits).map fun value => -value
  | '+' :: digits => (readMagnitude 0x7FFFFFFFFFFFFFFF .tooLarge digits).map fun value => value
  | digits => (readMagnitude 0x7FFFFFFFFFFFFFFF .tooLarge digits).map fun value => value

end RpcDispatch.Decimal
