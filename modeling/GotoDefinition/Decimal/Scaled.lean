import GotoDefinition.Decimal.Nearest

/-!
# Decimals with a significand of 64 bits

A decimal of any length is reduced to a significand of 64 bits and a power of ten, and
its floating-point value is the product of the two.  The significand, the power and the
product are each rounded, so that the value may differ in its last place from the number
nearest to the decimal.
-/

namespace GotoDefinition.Decimal

/-- The number `significand · 10 ^ exponent`. -/
structure Scaled where
  significand : Nat
  exponent : Int
deriving DecidableEq, Repr

namespace Scaled

/-- Append digits to a significand as long as it fits 64 bits; also the digits that are
left over. -/
def appendDigits (significand : Nat) : Text → Nat × Text
  | [] => (significand, [])
  | c :: rest =>
    let longer := 10 * significand + (c.toNat - 0x30)
    if longer < 0x10000000000000000 then appendDigits longer rest else (significand, c :: rest)

/-- The decimal with the given digits before and behind the point.  Digits before the
point that are left over still count for the power of ten, those behind it do not count
at all. -/
def ofDigits (whole fraction : Text) (exponent : Int) : Scaled :=
  let (significand, wholeLeft) := appendDigits 0 whole
  let (significand, fractionLeft) := appendDigits significand fraction
  { significand
    exponent := exponent + wholeLeft.length - (fraction.length - fractionLeft.length : Nat) }

/-- A power of ten up to 308. -/
def powerOfTen (exponent : Nat) : Float :=
  Float.ofScientific 1 false exponent

/-- A number times a power of ten, unless that is too large.  Very small powers are
taken in several steps, which end when the number has become zero. -/
def times (value : Float) (exponent : Int) : Option Float :=
  if 308 < exponent then
    if value == 0.0 then some value else none
  else if 0 ≤ exponent then
    let product := value * powerOfTen exponent.natAbs
    if product.isInf then none else some product
  else if -308 ≤ exponent then some (value / powerOfTen exponent.natAbs)
  else if value == 0.0 then some value
  else times (value / powerOfTen 308) (exponent + 308)
termination_by exponent.natAbs

/-- The floating-point value of a decimal, unless it is too large. -/
def toFloat? (decimal : Scaled) : Option Float :=
  times (Float.ofNat decimal.significand) decimal.exponent

end Scaled

end GotoDefinition.Decimal
