import GotoDefinition.Text.Units

/-!
# TOML values

Only what settings are made of keeps its content; floating-point numbers and dates are
known to be well-formed and nothing more.
-/

namespace GotoDefinition.Toml

/-- A TOML value. -/
inductive Value where
  | string (value : String)
  | integer (value : Int)
  | boolean (value : Bool)
  | float
  | dateTime
  | array (items : List Value)
  | table (members : List (String × Value))
deriving Inhabited

/-- What a reader takes off the front of a text, and what is left. -/
abbrev Reader (α : Type) := Text → Option (α × Text)

end GotoDefinition.Toml
