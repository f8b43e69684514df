import GotoDefinition.Text.CombiningClass
import GotoDefinition.Text.Decomposition

/-!
# The composed form of a text

Equivalent texts have the same composed form.  All characters are decomposed, marks
behind a letter are put in the order of their combining classes, and then every letter is
joined with the marks that it forms a composite with.
-/

namespace GotoDefinition

/-- Put a code point in front of others; a mark moves behind marks of lower classes. -/
def insertInOrder (code : Nat) : List Nat → List Nat
  | [] => [code]
  | next :: rest =>
    if 0 < combiningClass next && combiningClass next < combiningClass code then
      next :: insertInOrder code rest
    else code :: next :: rest

/-- Join a letter with what follows it.  `between` holds the marks behind the letter that
did not join, last first; a later one joins only if its class is higher than theirs. -/
def composeFrom (letter : Nat) (between : List Nat) : List Nat → List Nat
  | [] => letter :: between.reverse
  | code :: rest =>
    let reaches := (between.head?.map combiningClass).all (· < combiningClass code)
    match if reaches then composite? letter code else none with
    | some joined => composeFrom joined between rest
    | none =>
      if combiningClass code = 0 then letter :: between.reverse ++ composeFrom code [] rest
      else composeFrom letter (code :: between) rest

/-- Join the letters of a decomposed text with their marks. -/
def composeCodes : List Nat → List Nat
  | [] => []
  | code :: rest =>
    if combiningClass code = 0 then composeFrom code [] rest else code :: composeCodes rest

/-- How often the first part of a composite may be a composite. -/
def deepestComposite : Nat := 4

/-- The composed form of a text.  Characters before the first mark are their own form. -/
def Text.composed (text : Text) : Text :=
  if text.all (·.toNat < 0x300) then text
  else
    let decomposed := text.flatMap fun c => decomposition deepestComposite c.toNat
    (composeCodes (decomposed.foldr insertInOrder [])).map Char.ofNat

end GotoDefinition
