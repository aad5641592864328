/-
This file writes JSON values without spaces.  Strings keep every character but quotes, backslashes
and controls; floats have the fewest digits that read back.
-/

import RpcDispatch.Decimal.Shortest
import RpcDispatch.Json.Value

namespace RpcDispatch.Json

/-! ### Strings -/

def hexDigit (value : Nat) : Char :=
  if value < 10 then Char.ofNat (48 + value) else Char.ofNat (87 + value)

def escapeChar (character : Char) : List Char :=
  if character = '"' then ['\\', '"']
  else if character = '\\' then ['\\', '\\']
  else if character = '\x08' then ['\\', 'b']
  else if character = '\x0c' then ['\\', 'f']
  else if character = '\n' then ['\\', 'n']
  else if character = '\r' then ['\\', 'r']
  else if character = '\t' then ['\\', 't']
  else if character.toNat < 32 then
    ['\\', 'u', '0', '0', hexDigit (character.toNat / 16), hexDigit (character.toNat % 16)]
  else [character]

def stringChars (text : String) : List Char :=
  '"' :: text.toList.flatMap escapeChar ++ ['"']

/-! ### Numbers -/

/-- Floats are positional while the point stands within sixteen digits after the first digit or
five places before it. -/
def layoutDecimal (digits : List Char) (point : Int) : List Char :=
  let count := digits.length
  if 0 < point ∧ point ≤ 16 then
    if count ≤ point.toNat then
      digits ++ List.replicate (point.toNat - count) '0' ++ ['.', '0']
    else digits.take point.toNat ++ '.' :: digits.drop point.toNat
  else if -5 < point ∧ point ≤ 0 then
    '0' :: '.' :: List.replicate point.natAbs '0' ++ digits
  else
    let exponent := point - 1
    let mark := if exponent < 0 then ['e', '-'] else ['e', '+']
    let mantissa := match digits with
      | first :: second :: rest => first :: '.' :: second :: rest
      | _ => digits
    mantissa ++ mark ++ Nat.toDigits 10 exponent.natAbs

def withSign (negative : Bool) (digits : List Char) : List Char :=
  if negative then '-' :: digits else digits

/-- JSON has no text for infinities, so they are null like what is not a number. -/
def floatChars (bits : UInt64) : List Char :=
  match Decimal.classify bits with
  | .zero negative => withSign negative ['0', '.', '0']
  | .finite negative magnitude =>
    let (digits, point) := magnitude.shortest.digitsAndPoint
    withSign negative (layoutDecimal digits point)
  | .infinite _ | .notANumber => ['n', 'u', 'l', 'l']

def integerChars (value : Int) : List Char :=
  withSign (value < 0) (Nat.toDigits 10 value.natAbs)

def Number.chars : Number → List Char
  | .integer value => integerChars value
  | .float bits => floatChars bits

/-! ### Values -/

def boolChars (value : Bool) : List Char :=
  if value then ['t', 'r', 'u', 'e'] else ['f', 'a', 'l', 's', 'e']

def memberChars (name : String) (value : List Char) : List Char :=
  stringChars name ++ ':' :: value

/-- Items between brackets. -/
def arrayChars (items : List (List Char)) : List Char :=
  '[' :: [','].intercalate items ++ [']']

/-- Members between braces. -/
def objectChars (members : List (List Char)) : List Char :=
  '{' :: [','].intercalate members ++ ['}']

mutual

def Value.chars : Value → List Char
  | .null => ['n', 'u', 'l', 'l']
  | .bool value => boolChars value
  | .number value => value.chars
  | .string value => stringChars value
  | .array items => arrayChars (itemsChars items)
  | .object members => objectChars (membersChars members)

def itemsChars : List Value → List (List Char)
  | [] => []
  | item :: rest => item.chars :: itemsChars rest

def membersChars : List (String × Value) → List (List Char)
  | [] => []
  | (name, value) :: rest => memberChars name value.chars :: membersChars rest

end

/-- The text of a value. -/
def Value.text (value : Value) : String :=
  String.ofList value.chars

/-- The text of an integer or float in messages. -/
def Number.text (number : Number) : String :=
  String.ofList number.chars

/-- A float as a value: one without JSON text is null. -/
def Value.ofFloat (bits : UInt64) : Value :=
  match Decimal.classify bits with
  | .infinite _ | .notANumber => .null
  | _ => .number (.float bits)

end RpcDispatch.Json
