import GotoDefinition.Text.Units

/-!
# Punycode

A label is written as its ASCII characters, a hyphen if there are any, and one number for
each other character.  The numbers say, code point after code point in increasing order,
how many possible insertions are passed over before the next one.  A number is written in
digits of growing weight, and how the weight grows adapts to the size of the numbers.
-/

namespace GotoDefinition.Punycode

/-! ## Digits -/

/-- The digit of a value below thirty-six. -/
def digit (value : Nat) : Char :=
  if value < 26 then Char.ofNat (0x61 + value) else Char.ofNat (0x30 + value - 26)

/-- The value of a digit. -/
def digitValue? (c : Char) : Option Nat :=
  if 'a' ≤ c ∧ c ≤ 'z' then some (c.toNat - 0x61)
  else if '0' ≤ c ∧ c ≤ '9' then some (c.toNat - 0x30 + 26)
  else none

/-- The threshold of the digit at weight `k`; a digit below it is the last one. -/
def threshold (k bias : Nat) : Nat :=
  if k ≤ bias then 1 else if bias + 26 ≤ k then 26 else k - bias

/-- Divide a number by thirty-five until it is small, counting the weight gone over. -/
def shrink (number k : Nat) : Nat × Nat :=
  if 455 < number then shrink (number / 35) (k + 36) else (number, k)
termination_by number

/-- The bias after a number was written as the `count`-th one. -/
def adapt (number count : Nat) (first : Bool) : Nat :=
  let scaled := if first then number / 700 else number / 2
  let (rest, k) := shrink (scaled + scaled / count) 0
  k + 36 * rest / (rest + 38)

/-- The first code point that is written as a number. -/
def firstCode : Nat := 0x80

/-- The bias of the first number. -/
def firstBias : Nat := 72

/-! ## Encoding -/

/-- A number in digits of growing weight. -/
def numberText (bias k number : Nat) : Text :=
  if number < threshold k bias then [digit number]
  else
    let excess := number - threshold k bias
    let base := 36 - threshold k bias
    digit (threshold k bias + excess % base) :: numberText bias (k + 36) (excess / base)
termination_by number
decreasing_by
  have positive : 1 ≤ threshold k bias := by
    unfold threshold
    split
    · omega
    · split <;> omega
  have quotient := Nat.div_le_self (number - threshold k bias) (36 - threshold k bias)
  omega

/-- What encoding a label has written and must remember. -/
structure Encoding where
  written : Text
  passed : Nat
  bias : Nat
  handled : Nat

/-- Go over one character of the label while the code point `target` is inserted. -/
def encodeCharacter (basic target : Nat) (state : Encoding) (c : Char) : Encoding :=
  if c.toNat < target then { state with passed := state.passed + 1 }
  else if c.toNat = target then
    { written := state.written ++ numberText state.bias 36 state.passed
      passed := 0
      bias := adapt state.passed (state.handled + 1) (state.handled == basic)
      handled := state.handled + 1 }
  else state

/-- Insert the code points of `targets`, which are in increasing order from `least` on. -/
def encodeTargets (label : Text) (basic : Nat) : List Nat → Nat → Encoding → Encoding
  | [], _, state => state
  | target :: rest, least, state =>
    let reached := { state with passed := state.passed + (target - least) * (state.handled + 1) }
    let inserted := label.foldl (encodeCharacter basic target) reached
    encodeTargets label basic rest (target + 1) { inserted with passed := inserted.passed + 1 }

/-- A label in Punycode. -/
def encode (label : Text) : Text :=
  let basic := label.filter (·.toNat < firstCode)
  let others := (label.filter (firstCode ≤ ·.toNat)).map Char.toNat
  let start :=
    { written := if basic.isEmpty then [] else basic ++ ['-']
      passed := 0
      bias := firstBias
      handled := basic.length }
  (encodeTargets label basic.length others.mergeSort.eraseDups firstCode start).written

/-! ## Decoding -/

/-- The number at the front of a text, added to `value`. -/
def number? (bias k weight value : Nat) : Text → Option (Nat × Text)
  | [] => none
  | c :: rest => do
    let digit ← digitValue? c
    let value := value + digit * weight
    if digit < threshold k bias then some (value, rest)
    else number? bias (k + 36) (weight * (36 - threshold k bias)) value rest

theorem length_lt_of_number? {bias k weight value : Nat} {text rest : Text} {number : Nat}
    (read : number? bias k weight value text = some (number, rest)) : rest.length < text.length := by
  induction text generalizing k weight value with
  | nil => simp [number?] at read
  | cons c tail ih =>
    simp only [number?, Option.bind_eq_bind, Option.bind_eq_some_iff] at read
    obtain ⟨digit, _, read⟩ := read
    split at read
    · simp only [Option.some.injEq, Prod.mk.injEq] at read
      simp [read.2]
    · exact Nat.lt_trans (ih read) (by simp)

/-- Insert characters by the numbers of a text into those that a label has so far.
`code` and `place` say where the last insertion was. -/
def insert? (characters : Text) (code place bias : Nat) (first : Bool) (text : Text) : Option Text :=
  if text.isEmpty then some characters
  else
    match read : number? bias 36 1 0 text with
    | none => none
    | some (number, rest) =>
      let count := characters.length + 1
      let code := code + (place + number) / count
      let place := (place + number) % count
      if code.isValidChar then
        let characters := characters.take place ++ Char.ofNat code :: characters.drop place
        insert? characters code (place + 1) (adapt number count first) false rest
      else none
termination_by text.length
decreasing_by exact length_lt_of_number? read

/-- The label that a text in Punycode stands for. -/
def decode? (text : Text) : Option Text :=
  let numbers := (text.reverse.takeWhile (· != '-')).reverse
  let basic := (text.take (text.length - numbers.length)).dropLast
  let numbers := if basic.isEmpty then text else numbers
  insert? basic firstCode 0 firstBias true numbers

end GotoDefinition.Punycode
