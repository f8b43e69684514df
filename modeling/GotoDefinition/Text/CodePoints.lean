import GotoDefinition.Text.Units

/-!
# Sets of code points

A character class is a list of ranges of code points in increasing order, so a
lookup stops at the first range that begins above the code point it looks for.  Long
lists are written as tables of hexadecimal numbers.
-/

namespace GotoDefinition

/-- Ranges of code points, both ends included, in increasing order. -/
abbrev CodePoints := List (Nat × Nat)

/-- Whether a code point lies in one of the ranges. -/
def CodePoints.mem : CodePoints → Nat → Bool
  | [], _ => false
  | (low, high) :: rest, code =>
    if code < low then false else if code ≤ high then true else mem rest code

namespace CodePoints

/-! ## Tables -/

/-- The number that hexadecimal digits spell, letters being capitals. -/
def hexadecimal (digits : Text) : Nat :=
  digits.foldl (fun value c => 16 * value + (c.toNat - if c ≤ '9' then 0x30 else 0x37)) 0

/-- The range that its two ends spell with a hyphen between them, or its only member. -/
def range (word : Text) : Nat × Nat :=
  match word.splitWhere (· == '-') with
  | [low, high] => (hexadecimal low, hexadecimal high)
  | _ => (hexadecimal word, hexadecimal word)

/-- The words of a table. -/
def tableWords (table : String) : List Text :=
  (Text.splitWhere (fun c => c == ' ' || c == '\n') table.toList).filter fun word => !word.isEmpty

/-- The ranges that a table spells. -/
def ofTable (table : String) : CodePoints :=
  (tableWords table).map range

end CodePoints

end GotoDefinition
