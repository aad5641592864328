/-
This file finds the shortest decimal that reads back as a given binary64 number.  All arithmetic
is exact, on natural numbers.
-/

namespace RpcDispatch.Decimal

/-- A finite positive number is `significand * 2 ^ exponent`. -/
structure Binary where
  significand : Nat
  exponent : Int
  /-- At the start of a binade the numbers below lie twice as dense as those above. -/
  startsBinade : Bool

/-- A binary64 number by its bits. -/
inductive Class where
  | notANumber
  | infinite (negative : Bool)
  | zero (negative : Bool)
  | finite (negative : Bool) (magnitude : Binary)

def classify (bits : UInt64) : Class :=
  let fraction := bits.toNat % 0x10000000000000
  let biased := bits.toNat / 0x10000000000000 % 0x800
  let negative := bits.toNat / 0x8000000000000000 == 1
  if biased = 0x7FF then
    if fraction = 0 then .infinite negative else .notANumber
  else if biased = 0 then
    if fraction = 0 then .zero negative else .finite negative ⟨fraction, -1074, false⟩
  else
    .finite negative
      ⟨0x10000000000000 + fraction, (biased : Int) - 1075, fraction = 0 && 1 < biased⟩

/-- A positive rational number. -/
structure Ratio where
  numerator : Nat
  denominator : Nat

/-- A power, which is a ratio when the exponent is negative. -/
def power (base : Nat) (exponent : Int) : Ratio :=
  if 0 ≤ exponent then ⟨base.pow exponent.toNat, 1⟩ else ⟨1, base.pow exponent.natAbs⟩

/-- The numbers that are read as a given binary number lie between two bounds, and at the bounds
when its significand is even. -/
structure Interval where
  lower : Nat
  value : Nat
  upper : Nat
  closed : Bool

/-- The interval of a binary number, in quarters of its last place. -/
def Binary.interval (number : Binary) : Interval where
  lower := 4 * number.significand - if number.startsBinade then 1 else 2
  value := 4 * number.significand
  upper := 4 * number.significand + 2
  closed := number.significand % 2 == 0

/-- How many decimal digits stand before the point; the count is negative when zeros follow the
point. -/
def pointPosition (ratio : Ratio) : Int :=
  if ratio.denominator ≤ ratio.numerator then
    (Nat.toDigits 10 (ratio.numerator / ratio.denominator)).length
  else
    let inverse := (ratio.denominator + ratio.numerator - 1) / ratio.numerator
    1 - ((Nat.toDigits 10 (inverse - 1)).length : Int)

/-- A decimal number is `digits * 10 ^ exponent`. -/
structure Expansion where
  digits : Nat
  exponent : Int

/-- The decimal with the given exponent that lies in the interval and nearest to the value; a tie
goes to the even one. -/
def Interval.decimalAt? (interval : Interval) (unit : Ratio) (exponent : Int) : Option Expansion :=
  let ten := power 10 exponent
  let scale (quarters : Nat) := quarters * unit.numerator * ten.denominator
  let step := unit.denominator * ten.numerator
  let below := scale interval.value / step
  let inside (digits : Nat) : Bool :=
    if interval.closed then
      scale interval.lower ≤ digits * step && digits * step ≤ scale interval.upper
    else scale interval.lower < digits * step && digits * step < scale interval.upper
  let twice := 2 * scale interval.value
  let middle := (2 * below + 1) * step
  let chooseBelow := twice < middle || (twice = middle && below % 2 = 0)
  match inside below, inside (below + 1) with
  | true, true => some ⟨if chooseBelow then below else below + 1, exponent⟩
  | true, false => some ⟨below, exponent⟩
  | false, true => some ⟨below + 1, exponent⟩
  | false, false => none

/-- The first hit among decimals of growing length. -/
def firstDecimal (interval : Interval) (unit : Ratio) (point : Int) :
    (remaining length : Nat) → Expansion
  | 0, length => ⟨0, point - length⟩
  | remaining + 1, length =>
    match interval.decimalAt? unit (point - length) with
    | some decimal => decimal
    | none => firstDecimal interval unit point remaining (length + 1)

/-- Every binary64 number has a decimal of at most this length that reads back. -/
def longestDecimal : Nat := 17

def Binary.shortest (number : Binary) : Expansion :=
  let unit := power 2 (number.exponent - 2)
  let interval := number.interval
  let ratio : Ratio := ⟨interval.value * unit.numerator, unit.denominator⟩
  firstDecimal interval unit (pointPosition ratio) longestDecimal 1

/-- The digits without zeros at the end, and the position of the point among them. -/
def Expansion.digitsAndPoint (decimal : Expansion) : List Char × Int :=
  let digits := Nat.toDigits 10 decimal.digits
  ((digits.reverse.dropWhile (· = '0')).reverse, digits.length + decimal.exponent)

end RpcDispatch.Decimal
