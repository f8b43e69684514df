import GotoDefinition.Decimal.Nearest
import GotoDefinition.Text.Alphanumeric

/-!
# Log filters

A filter is a level, a target, a level for one target, or empty.  The first valid one
counts of those on the command line, in the server's own environment variable and in the
general one; without any, messages from the level of information on are logged.
-/

namespace GotoDefinition.LogFilter

/-- The names of the levels; each may also be written as its place in the list. -/
def levels : List String :=
  ["off", "error", "warn", "info", "debug", "trace"]

/-- The level with the number that a text spells. -/
def numberedLevel? (text : Text) : Option String :=
  let digits := if text.head? == some '+' then text.drop 1 else text
  if digits.isEmpty || !digits.all Decimal.isDigit then none
  else levels[Decimal.digitsValue digits]?

/-- The level that a text names in any case or gives by its number. -/
def level? (text : Text) : Option String :=
  let name := String.ofList (text.map Char.toLower)
  if levels.contains name then some name else numberedLevel? text

/-- Whether a filter may start with a character. -/
def startsFilter (c : Char) : Bool :=
  isAlphanumeric c || c == '-' || c == ':' || c == '_'

/-- The filter for one target in its normal form. -/
def targetFilter (target : Text) (level : String) : String :=
  String.ofList target ++ "=" ++ level

/-- The normal form of a filter that is not empty, if it is valid.  Every level is logged
for a target without one. -/
def normalDirective? (text : Text) : Option String :=
  let target := text.takeWhile (· != '=')
  if target.contains '[' || target.contains ',' then none
  else
    match text.dropWhile (· != '=') with
    | [] => (level? text).getD (targetFilter text "trace")
    | ['='] => some (targetFilter target "trace")
    | _ :: level => (level? level).map (targetFilter target)

/-- The normal form of a filter, if it is valid. -/
def normal? (filter : String) : Option String :=
  match filter.toList with
  | [] => some ""
  | c :: rest => if startsFilter c then normalDirective? (c :: rest) else none

/-- The filter in effect. -/
def choose (commandLine ownVariable generalVariable : Option String) : String :=
  ([commandLine, ownVariable, generalVariable].findSome? (·.bind normal?)).getD "info"

end GotoDefinition.LogFilter
