import GotoDefinition.Text.CodePoints

/-!
# Maps of code points

A map sends some code points to sequences of code points.  It is made of runs in
increasing order.
-/

namespace GotoDefinition

/-- The code points from `low` to `high` at every `step`-th place.  All of them have the
same image or, if they advance, an image whose first member lies as far beyond the first
of `targets` as they lie beyond `low`. -/
structure CodeRun where
  low : Nat
  high : Nat
  step : Nat
  advances : Bool
  targets : List Nat
deriving DecidableEq, Repr

namespace CodeRun

/-- The image of the code point `distance` places beyond the first of a run. -/
def image (run : CodeRun) (distance : Nat) : List Nat :=
  match run.advances, run.targets with
  | true, first :: rest => (first + distance) :: rest
  | _, targets => targets

/-- The run that a word of a table spells: a range, `/` and the step if it is not one, and
the members of the image behind `+` if they advance and behind `=` if not. -/
def ofWord (word : Text) : CodeRun :=
  let isMark (c : Char) := c == '+' || c == '='
  let source := word.takeWhile fun c => !isMark c
  let image := (word.dropWhile fun c => !isMark c).drop 1
  let (low, high) := CodePoints.range (source.takeWhile (· != '/'))
  let step := (source.dropWhile (· != '/')).drop 1
  { low, high
    step := if step.isEmpty then 1 else CodePoints.hexadecimal step
    advances := word.contains '+'
    targets :=
      if image.isEmpty then [] else (Text.splitWhere (· == '.') image).map CodePoints.hexadecimal }

end CodeRun

/-- Runs in increasing order. -/
abbrev CodeMap := List CodeRun

namespace CodeMap

/-- The map that a table spells. -/
def ofTable (table : String) : CodeMap :=
  (CodePoints.tableWords table).map CodeRun.ofWord

/-- The image of a code point, if it has one. -/
def image? : CodeMap → Nat → Option (List Nat)
  | [], _ => none
  | run :: rest, code =>
    if code < run.low then none
    else if code ≤ run.high then
      if (code - run.low) % run.step = 0 then some (run.image (code - run.low)) else none
    else image? rest code

end CodeMap

end GotoDefinition
