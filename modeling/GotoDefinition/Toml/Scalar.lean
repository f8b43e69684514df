import GotoDefinition.Decimal.Nearest
import GotoDefinition.Toml.Basic

/-!
# Numbers, booleans and dates

A scalar without quotes is read as a whole and then has to be a boolean, an integer, a
floating-point number, or a date or time.
-/

namespace GotoDefinition.Toml

open Decimal (isDigit digitsValue nearestFloat?)

/-! ## Integers -/

/-- The value of a digit in bases up to sixteen. -/
def digitValue? (c : Char) : Option Nat :=
  if isDigit c then some (c.toNat - 0x30)
  else if 'a' ≤ c ∧ c ≤ 'f' then some (c.toNat - 0x57)
  else if 'A' ≤ c ∧ c ≤ 'F' then some (c.toNat - 0x37)
  else none

/-- Digits of a base with single underscores between them, without the underscores. -/
def groupedDigits? (base : Nat) (text : Text) : Option Text :=
  let groups := text.splitWhere (· == '_')
  let isGroup (group : Text) := !group.isEmpty && group.all fun c => (digitValue? c).any (· < base)
  if groups.all isGroup then some groups.flatten else none

/-- The number that digits of a base spell. -/
def numberInBase (base : Nat) (digits : Text) : Nat :=
  digits.foldl (fun value c => base * value + (digitValue? c).getD 0) 0

/-- Decimal digits without a superfluous zero in front. -/
def wholeDigits? (text : Text) : Option Text := do
  let digits ← groupedDigits? 10 text
  if digits.head? == some '0' && 1 < digits.length then none else some digits

/-- The sign in front of a number, and the rest. -/
def splitSign : Text → Bool × Text
  | '-' :: rest => (true, rest)
  | '+' :: rest => (false, rest)
  | text => (false, text)

/-- An integer in decimal, or without a sign in base sixteen, eight or two.  It has to
fit 128 bits. -/
def integer? (text : Text) : Option Int := do
  let value : Int ←
    match text with
    | '0' :: 'x' :: digits => (groupedDigits? 16 digits).map fun digits => Int.ofNat (numberInBase 16 digits)
    | '0' :: 'o' :: digits => (groupedDigits? 8 digits).map fun digits => Int.ofNat (numberInBase 8 digits)
    | '0' :: 'b' :: digits => (groupedDigits? 2 digits).map fun digits => Int.ofNat (numberInBase 2 digits)
    | _ =>
      let (negative, digits) := splitSign text
      (wholeDigits? digits).map fun digits =>
        let magnitude := Int.ofNat (digitsValue digits)
        if negative then -magnitude else magnitude
  if -0x80000000000000000000000000000000 ≤ value ∧ value < 0x100000000000000000000000000000000 then
    some value
  else none

/-! ## Floating-point numbers -/

/-- Whether a text is a floating-point number that is not too large. -/
def isFloat (text : Text) : Bool :=
  let (_, unsigned) := splitSign text
  if unsigned == "inf".toList || unsigned == "nan".toList then true
  else
    let isExponentMark (c : Char) := c == 'e' || c == 'E'
    let mantissa := unsigned.takeWhile fun c => !isExponentMark c
    let whole := mantissa.takeWhile (· != '.')
    let fraction? : Option Text :=
      if mantissa.contains '.' then groupedDigits? 10 ((mantissa.dropWhile (· != '.')).drop 1)
      else some []
    let exponent? : Option Int :=
      match unsigned.dropWhile fun c => !isExponentMark c with
      | [] => some 0
      | _ :: exponent =>
        let (negative, digits) := splitSign exponent
        (groupedDigits? 10 digits).map fun digits =>
          if negative then -Int.ofNat (digitsValue digits) else Int.ofNat (digitsValue digits)
    match wholeDigits? whole, fraction?, exponent? with
    | some whole, some fraction, some exponent =>
      (mantissa.contains '.' || unsigned.any isExponentMark) &&
        (nearestFloat? false (digitsValue (whole ++ fraction)) (exponent - fraction.length)).isSome
    | _, _, _ => false

/-! ## Dates and times -/

/-- A number of exactly `count` digits at the front of a text. -/
def fixedDigits? (count : Nat) : Reader Nat := fun text =>
  let digits := text.take count
  if digits.length = count && digits.all isDigit then some (digitsValue digits, text.drop count)
  else none

/-- The rest behind one expected character. -/
def expect? (c : Char) : Text → Option Text
  | [] => none
  | other :: rest => if other = c then some rest else none

/-- The number of days in a month. -/
def daysInMonth (year month : Nat) : Nat :=
  if month = 2 then
    if year % 4 = 0 && (year % 100 != 0 || year % 400 = 0) then 29 else 28
  else if [4, 6, 9, 11].contains month then 30
  else 31

/-- What follows a date. -/
def afterDate? (text : Text) : Option Text := do
  let (year, rest) ← fixedDigits? 4 text
  let (month, rest) ← fixedDigits? 2 (← expect? '-' rest)
  let (day, rest) ← fixedDigits? 2 (← expect? '-' rest)
  if 1 ≤ month && month ≤ 12 && 1 ≤ day && day ≤ daysInMonth year month then some rest else none

/-- What follows a time of day, whose seconds may be missing. -/
def afterTime? (text : Text) : Option Text := do
  let (hour, rest) ← fixedDigits? 2 text
  let (minute, rest) ← fixedDigits? 2 (← expect? ':' rest)
  if 23 < hour || 59 < minute then none
  match rest with
  | ':' :: rest =>
    let (second, rest) ← fixedDigits? 2 rest
    if 60 < second then none
    match rest with
    | '.' :: rest =>
      if (rest.takeWhile isDigit).isEmpty then none else some (rest.dropWhile isDigit)
    | rest => some rest
  | rest => some rest

/-- Whether a text is an offset from universal time. -/
def isOffset (text : Text) : Bool :=
  match text with
  | ['Z'] | ['z'] => true
  | sign :: rest =>
    let ends? := do
      let (hour, rest) ← fixedDigits? 2 rest
      let (minute, rest) ← fixedDigits? 2 (← expect? ':' rest)
      if hour ≤ 23 && minute ≤ 59 then some rest else none
    (sign == '+' || sign == '-') && ends? == some []
  | [] => false

/-- Whether a text is a date, a time, or both with an optional offset. -/
def isDateTime (text : Text) : Bool :=
  match afterDate? text with
  | some [] => true
  | some (mark :: time) =>
    (mark == 'T' || mark == 't' || mark == ' ') &&
      match afterTime? time with
      | some [] => true
      | some offset => isOffset offset
      | none => false
  | none => afterTime? text == some []

/-- The value of a scalar without quotes. -/
def scalar? (text : Text) : Option Value :=
  if text == "true".toList then some (.boolean true)
  else if text == "false".toList then some (.boolean false)
  else
    match integer? text with
    | some value => some (.integer value)
    | none =>
      if isDateTime text then some .dateTime
      else if isFloat text then some .float
      else none

end GotoDefinition.Toml
