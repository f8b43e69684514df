import GotoDefinition.Symbol
import GotoDefinition.Text.Word

/-!
# Resolving a word to its definitions

A word long enough to mean something is looked up among the symbols that a search
returned.  Methods whose names contain the word are candidates; the strict variant
also wants the whole name on the cursor's line.  Too many candidates are no answer:
a wrong jump is worse than none.
-/

namespace GotoDefinition

/-- How careful the resolver is. -/
inductive Variant where
  | strict
  | lenient
deriving DecidableEq, Repr

namespace Variant

/-- The shortest word that is looked up, in UTF-16 units. -/
def minimumLength : Variant → Nat
  | .strict => 2
  | .lenient => 1

end Variant

/-- What a definition request asks about. -/
structure Query where
  /-- The word under the cursor. -/
  word : Text
  /-- The line the cursor is on. -/
  line : Text
  position : Position
deriving DecidableEq, Repr

/-- Where a request may lead: the target's name, and the words on the cursor's line
that lead there. -/
structure Link where
  origin : Option Range
  uri : Uri
  target : Range
  selection : Range
deriving DecidableEq, Repr

namespace Resolver

/-- The largest number of candidates that is still an answer. -/
def ambiguityThreshold : Nat := 5

/-- Whether a word is long enough to be looked up. -/
def accepts (variant : Variant) (word : Text) : Bool :=
  variant.minimumLength ≤ word.utf16Length

/-- Whether a symbol is a candidate for a query. -/
def isCandidate (variant : Variant) (query : Query) (symbol : Symbol) : Bool :=
  symbol.isMethod && symbol.name.includes query.word &&
    match variant with
    | .strict => query.line.includes symbol.name
    | .lenient => true

/-- The candidates among the symbols in their order, or nothing if there are too many. -/
def candidates? (variant : Variant) (query : Query) (symbols : List Symbol) :
    Option (List Symbol) :=
  let candidates := symbols.filter (isCandidate variant query)
  if ambiguityThreshold < candidates.length then none else some candidates

/-- The range of a name on the cursor's line that the cursor lies in or touches.  A name that
is too long to be compiled is not looked for. -/
def originRange? (compiler : PatternCompiler) (line : Text) (position : Position) (name : Text) :
    Option Range := do
  let pattern ← compiler.literal? name
  let word ← line.matchAt? position.character pattern
  return word.toRange position.line

/-- The link to a candidate. -/
def link (compiler : PatternCompiler) (variant : Variant) (query : Query) (symbol : Symbol) :
    Link where
  origin :=
    match variant with
    | .strict => originRange? compiler query.line query.position symbol.name
    | .lenient => none
  uri := symbol.uri
  target := symbol.range
  selection := symbol.range

/-- The links from the symbols that a search for the query's word returned. -/
def links? (compiler : PatternCompiler) (variant : Variant) (query : Query)
    (symbols : List Symbol) : Option (List Link) :=
  (candidates? variant query symbols).map (·.map (link compiler variant query))

/-- How many searches resolving a query takes: none if its word is too short. -/
def searchCount (variant : Variant) (query : Query) : Nat :=
  if accepts variant query.word then 1 else 0

/-- Resolve a query with a search that may fail and that is not run for words that are
too short. -/
def resolve {ε : Type} (compiler : PatternCompiler) (variant : Variant) (query : Query)
    (search : Text → Except ε (List Symbol)) : Except ε (Option (List Link)) :=
  if accepts variant query.word then (search query.word).map (links? compiler variant query)
  else .ok none

end Resolver

end GotoDefinition
