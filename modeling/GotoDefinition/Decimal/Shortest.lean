import GotoDefinition.Text.Units

/-!
# The shortest decimal of a floating-point number

A finite number is `significand · 2 ^ exponent`.  Every decimal in the interval of
reals that round to it reads back as that number; the shortest one has the fewest
digits, and of those with equally few digits it is the nearest.  All of this is
exact arithmetic on natural numbers.
-/

namespace GotoDefinition.Decimal

/-- A positive binary number `significand · 2 ^ exponent`.  At a boundary the next
smaller number is only half as far away as the next larger one. -/
structure Binary where
  significand : Nat
  exponent : Int
  atBoundary : Bool

/-- The magnitude of a finite number other than zero, from its 64 bits. -/
def Binary.ofBits (bits : Nat) : Binary :=
  let fraction : Nat := bits % 0x10000000000000
  let biased : Nat := bits / 0x10000000000000 % 0x800
  if biased = 0 then { significand := fraction, exponent := -1074, atBoundary := false }
  else
    { significand := 0x10000000000000 + fraction
      exponent := Int.ofNat biased - 1075
      atBoundary := fraction = 0 && 1 < biased }

/-- A decimal `digits · 10 ^ exponent`. -/
structure Digits where
  digits : Nat
  exponent : Int
deriving DecidableEq, Repr

/-- `base ^ exponent` as a fraction. -/
def powerFraction (base : Nat) (exponent : Int) : Nat × Nat :=
  if exponent < 0 then (1, Nat.pow base exponent.natAbs) else (Nat.pow base exponent.natAbs, 1)

/-- The number of decimal digits before the point, counted down below zero for the
zeros behind it: the number lies below ten to this power and not below a tenth of it. -/
def magnitude (number : Binary) : Int :=
  let (top, bottom) := powerFraction 2 number.exponent
  let scaled := number.significand * top * Nat.pow 10 330 / bottom
  ((Nat.toDigits 10 scaled).length : Int) - 330

/-- The decimal with `count` digits that reads back as the number, if there is one:
of the two neighbours on that grid the nearer one, and of two equally near the even. -/
def withDigits? (number : Binary) (count : Nat) : Option Digits :=
  let exponent := magnitude number - count
  let (top, bottom) := powerFraction 2 (number.exponent - 2)
  let (gridTop, gridBottom) := powerFraction 10 exponent
  -- Quarters of the last place of the number, and points of the grid, over one denominator.
  let quarter := top * gridBottom
  let step := gridTop * bottom
  let value := 4 * number.significand * quarter
  let low := value - (if number.atBoundary then quarter else 2 * quarter)
  let high := value + 2 * quarter
  let reads (digits : Nat) : Bool :=
    let point := digits * step
    if number.significand % 2 = 0 then low ≤ point && point ≤ high
    else low < point && point < high
  let below := value / step
  let above := below + 1
  let nearer :=
    let toBelow := value - below * step
    let toAbove := above * step - value
    if toBelow < toAbove then below
    else if toAbove < toBelow then above
    else if below % 2 = 0 then below else above
  if reads below && reads above then some ⟨nearer, exponent⟩
  else if reads below then some ⟨below, exponent⟩
  else if reads above then some ⟨above, exponent⟩
  else none

/-- The decimal `digits · 10 ^ exponent` without zeros at the end of its digits. -/
def trimmed (digits : Nat) (exponent : Int) : Digits :=
  if 0 < digits ∧ digits % 10 = 0 then trimmed (digits / 10) (exponent + 1)
  else { digits, exponent }
termination_by digits

/-- The shortest decimal that reads back as the number.  A neighbour above it may be a
power of ten, which has one digit more than its grid and ends in zeros. -/
def shortest (number : Binary) : Digits :=
  let found := ((List.range 17).map (· + 1)).findSome? (withDigits? number)
  let decimal := found.getD { digits := number.significand, exponent := 0 }
  trimmed decimal.digits decimal.exponent

/-! ## Writing -/

/-- The largest number of digits before the point, and the largest number of zeros
behind it, with which a number is still written without an exponent. -/
structure Layout where
  mostDigits : Int
  mostZeros : Int

/-- A decimal in positional notation, with a point in any case, or with an exponent, which
always has a sign. -/
def Layout.write (layout : Layout) (decimal : Digits) : Text :=
  let digits := Text.ofNat decimal.digits
  let point : Int := digits.length + decimal.exponent
  let exponentText (n : Int) : Text :=
    (if n < 0 then '-' else '+') :: Text.ofNat n.natAbs
  if 0 ≤ decimal.exponent && point ≤ layout.mostDigits then
    digits ++ List.replicate decimal.exponent.toNat '0' ++ ['.', '0']
  else if 0 < point && point ≤ layout.mostDigits then
    digits.take point.toNat ++ '.' :: digits.drop point.toNat
  else if -layout.mostZeros ≤ point && point ≤ 0 then
    ['0', '.'] ++ List.replicate point.natAbs '0' ++ digits
  else
    match digits with
    | [digit] => digit :: 'e' :: exponentText (point - 1)
    | digit :: rest => digit :: '.' :: rest ++ 'e' :: exponentText (point - 1)
    | [] => []

/-- A floating-point number with the fewest digits that read back. -/
def Layout.writeFloat (layout : Layout) (value : Float) : Text :=
  let bits := value.toBits.toNat
  let sign : Text := if 0x8000000000000000 ≤ bits then ['-'] else []
  let magnitudeBits := bits % 0x8000000000000000
  if magnitudeBits = 0 then sign ++ ['0', '.', '0']
  else sign ++ layout.write (shortest (Binary.ofBits magnitudeBits))

end GotoDefinition.Decimal
