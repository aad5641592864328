/-
This file reads labels of domain names that are written in ASCII.  The letters and digits after the
last dash say, one number for each, where the other characters are inserted and which they are.
-/

namespace RpcDispatch.Url.Domain.Punycode

/-- Numbers are below this bound. -/
def bound : Nat := 0x100000000

/-- The value of a digit in base 36. -/
def digit? (character : Char) : Option Nat :=
  if character.isAlpha then some (character.toLower.toNat - 97)
  else if character.isDigit then some (character.toNat - 22)
  else none

/-- A digit below its threshold ends a number.  Places count in steps of 36. -/
def threshold (place bias : Nat) : Nat :=
  if place ≤ bias then 1 else if bias + 26 ≤ place then 26 else place - bias

/-- Divides by 35 until the number is at most 455. -/
def damp (value : Nat) : Nat × Nat :=
  if 455 < value then
    let (rest, steps) := damp (value / 35)
    (rest, steps + 36)
  else (value, 0)
  termination_by value
  decreasing_by omega

/-- The bias for the next number, after a number was read for the insertion that makes a label of
the given length. -/
def adapt (value length : Nat) (isFirst : Bool) : Nat :=
  let halved := if isFirst then value / 700 else value / 2
  let (rest, steps) := damp (halved + halved / length)
  steps + 36 * rest / (rest + 38)

/-- Adds a number of several digits, the least significant one first, to `value`. -/
def readNumber (bias : Nat) : (place weight value : Nat) → List Char → Option (Nat × List Char)
  | _, _, _, [] => none
  | place, weight, value, character :: rest =>
    match digit? character with
    | none => none
    | some digit =>
      let value := value + digit * weight
      let limit := threshold place bias
      if bound ≤ value then none
      else if digit < limit then some (value, rest)
      else if bound ≤ weight * (36 - limit) then none
      else readNumber bias (place + 36) (weight * (36 - limit)) value rest

/-- Inserts the characters that the rest of the text names.  The number of each counts the places
in the label for each code from `code` on, beginning at place `index`. -/
def insert : (fuel : Nat) → (label : List Char) → (code index bias : Nat) → List Char →
    Option (List Char)
  | _, label, _, _, _, [] => some label
  | 0, _, _, _, _, _ => none
  | fuel + 1, label, code, index, bias, text =>
    match readNumber bias 36 1 index text with
    | none => none
    | some (value, rest) =>
      let length := label.length + 1
      let code := code + value / length
      let place := value % length
      if code.isValidChar then
        insert fuel (label.take place ++ Char.ofNat code :: label.drop place) code (place + 1)
          (adapt (value - index) length (index = 0)) rest
      else none

/-- The label that a text stands for.  What precedes its last dash stands for itself. -/
def decode? (text : List Char) : Option (List Char) :=
  let rest := (text.reverse.takeWhile (· ≠ '-')).reverse
  let label := text.take (text.length - rest.length - 1)
  if label.isEmpty && rest.length < text.length then none
  else insert rest.length (label.map Char.toLower) 0x80 0 72 rest

end RpcDispatch.Url.Domain.Punycode
