import GotoDefinition.Text.Units

/-!
# Reading decimals

Decimal digits as numbers, and the floating-point number nearest to a decimal.
-/

namespace GotoDefinition.Decimal

/-- Whether a character is a decimal digit. -/
def isDigit (c : Char) : Bool :=
  '0' ≤ c && c ≤ '9'

/-- The number that decimal digits spell. -/
def digitsValue (digits : Text) : Nat :=
  digits.foldl (fun value c => 10 * value + (c.toNat - 0x30)) 0

/-- The nearest floating-point number to `digits · 10 ^ exponent`, unless it is too large. -/
def nearestFloat? (negative : Bool) (digits : Nat) (exponent : Int) : Option Float :=
  let size : Int := (Nat.toDigits 10 digits).length + exponent
  let magnitude : Float :=
    if digits = 0 || size < -400 then 0.0
    else if 400 < size then 1.0 / 0.0
    else Float.ofScientific digits (exponent < 0) exponent.natAbs
  if magnitude.isInf then none else some (if negative then -magnitude else magnitude)

end GotoDefinition.Decimal
