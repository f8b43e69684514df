/-!
# Positions and ranges

A position is a line number and a UTF-16 column, both counted from zero.
-/

namespace GotoDefinition

/-- A place in a document: a line and a UTF-16 column on it. -/
structure Position where
  line : Nat
  character : Nat
deriving DecidableEq, Repr

/-- The part of a document from `start` up to, but not including, `stop`. -/
structure Range where
  start : Position
  stop : Position
deriving DecidableEq, Repr

end GotoDefinition
