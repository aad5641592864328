/-
This file turns a decimal significand and exponent into a binary64 number by one multiplication
or by divisions with tabled powers of ten.  The result can differ from the nearest number in its
last bits.
-/

namespace RpcDispatch.Decimal

/-- The largest power of ten that is a binary64 number has this exponent. -/
def largestPower : Nat := 308

def powerOfTen (exponent : Nat) : Float :=
  Float.ofScientific 1 false exponent

/-- Divides by ten to the given power, in steps of the largest power. -/
def scaleDown (value : Float) (exponent : Nat) : Float :=
  if exponent ≤ largestPower then value / powerOfTen exponent
  else if value == 0 then value
  else scaleDown (value / powerOfTen largestPower) (exponent - largestPower)
  termination_by exponent
  decreasing_by simp only [largestPower] at *; omega

/-- Multiplies by ten to the given power, or gives nothing beyond the largest number. -/
def scaleUp? (value : Float) (exponent : Nat) : Option Float :=
  if exponent ≤ largestPower then
    let scaled := value * powerOfTen exponent
    if scaled.isInf then none else some scaled
  else if value == 0 then some value
  else none

/-- The number `significand * 10 ^ exponent`, where the significand is below `2 ^ 64`. -/
def ofScientific? (significand : Nat) (exponent : Int) : Option Float :=
  let value := significand.toUInt64.toFloat
  if exponent < 0 then some (scaleDown value exponent.natAbs)
  else scaleUp? value exponent.toNat

end RpcDispatch.Decimal
