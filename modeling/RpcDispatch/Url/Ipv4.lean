/-
This file reads IPv4 addresses, in the strict form that stands inside IPv6 addresses and in the
loose form of host names.
-/

import RpcDispatch.Text.Split
import RpcDispatch.Url.Escape

namespace RpcDispatch.Url.Ipv4

/-- The number with the given digits. -/
def ofDigits (base : Nat) (digits : List Char) : Nat :=
  digits.foldl (fun value digit => value * base + (hexValue? digit).getD 0) 0

/-- A byte in decimal digits, without zeros before it. -/
def byte? (digits : List Char) : Option Nat :=
  if digits.isEmpty || !digits.all Char.isDigit then none
  else if 1 < digits.length && digits.head? == some '0' then none
  else if ofDigits 10 digits < 256 then some (ofDigits 10 digits) else none

/-- Four bytes with points between them. -/
def bytes? (text : List Char) : Option (Nat × Nat × Nat × Nat) :=
  match Text.splitAt '.' text with
  | [first, second, third, fourth] => do
    return (← byte? first, ← byte? second, ← byte? third, ← byte? fourth)
  | _ => none

/-! ### The loose form -/

/-- A number in base sixteen, eight or ten, as its beginning says. -/
def number? (text : List Char) : Option Nat :=
  match text with
  | [] => none
  | '0' :: 'x' :: digits | '0' :: 'X' :: digits =>
    if digits.all (fun digit => (hexValue? digit).isSome) then some (ofDigits 16 digits) else none
  | '0' :: digit :: digits =>
    if (digit :: digits).all (fun digit => '0' ≤ digit && digit ≤ '7') then
      some (ofDigits 8 (digit :: digits))
    else none
  | digits => if digits.all Char.isDigit then some (ofDigits 10 digits) else none

/-- The parts of a name between its points, without an empty one at the end. -/
def labels (name : List Char) : List (List Char) :=
  match (Text.splitAt '.' name).reverse with
  | [] :: label :: rest => (label :: rest).reverse
  | labels => labels.reverse

/-- A name whose last label is a number has to be an address. -/
def endsInNumber (name : List Char) : Bool :=
  match (labels name).getLast? with
  | some label => !label.isEmpty && label.all Char.isDigit || (number? label).isSome
  | none => false

/-- Up to four numbers, each but the last a byte, the last as large as there is room for. -/
def isLooseAddress (name : List Char) : Bool :=
  let labels := labels name
  labels.length ≤ 4 &&
    match (labels.map number?).reverse with
    | some last :: others =>
      others.all (fun number => number.any (· < 256)) && last < Nat.pow 256 (5 - labels.length)
    | _ => false

end RpcDispatch.Url.Ipv4
