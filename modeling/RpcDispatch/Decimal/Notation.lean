/-
This file tells which texts are written as numbers, with a point and an exponent if need be.
-/

namespace RpcDispatch.Decimal

/-- A text without the sign that it may begin with. -/
def withoutSign : List Char → List Char
  | '+' :: rest => rest
  | '-' :: rest => rest
  | text => text

/-- An exponent has a sign or none, and at least one digit. -/
def isExponent : List Char → Bool
  | [] => true
  | mark :: rest =>
    let digits := withoutSign rest
    (mark = 'e' || mark = 'E') && !digits.isEmpty && digits.all Char.isDigit

/-- The digits of a number stand before its point or after it. -/
def isMagnitude (text : List Char) : Bool :=
  let digits := text.takeWhile Char.isDigit
  match text.dropWhile Char.isDigit with
  | '.' :: rest =>
    !(digits ++ rest.takeWhile Char.isDigit).isEmpty && isExponent (rest.dropWhile Char.isDigit)
  | rest => !digits.isEmpty && isExponent rest

/-- The names of numbers without digits. -/
def namedNumbers : List String :=
  ["inf", "infinity", "nan"]

def isNumber (text : String) : Bool :=
  let magnitude := withoutSign text.toList
  isMagnitude magnitude || namedNumbers.any fun name => magnitude.map Char.toLower = name.toList

end RpcDispatch.Decimal
