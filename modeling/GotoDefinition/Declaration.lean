import GotoDefinition.Symbol
import GotoDefinition.Text.Line
import GotoDefinition.Text.Word
import GotoDefinition.Text.WordCharacter

/-!
# Declarations in a text

A declaration is a keyword that no word character precedes, one or more spaces or
tabs, optionally a receiver in parentheses on the same line, and a name.  Texts are
read from left to right; after a declaration the reading goes on behind its name, so
that declarations do not overlap.  No language is parsed: comments and string
literals count like any other text.
-/

namespace GotoDefinition

/-! ## Keywords -/

/-- The words that introduce a declaration. -/
inductive Keyword where
  | fnKeyword
  | defKeyword
  | funcKeyword
  | functionKeyword
  | subKeyword
  | classKeyword
  | structKeyword
  | interfaceKeyword
  | traitKeyword
  | enumKeyword
deriving DecidableEq, Repr

namespace Keyword

/-- All keywords. -/
def all : List Keyword :=
  [fnKeyword, defKeyword, funcKeyword, functionKeyword, subKeyword, classKeyword, structKeyword,
   interfaceKeyword, traitKeyword, enumKeyword]

/-- The spelling of a keyword. -/
def spelling : Keyword → Text
  | .fnKeyword => ['f', 'n']
  | .defKeyword => ['d', 'e', 'f']
  | .funcKeyword => ['f', 'u', 'n', 'c']
  | .functionKeyword => ['f', 'u', 'n', 'c', 't', 'i', 'o', 'n']
  | .subKeyword => ['s', 'u', 'b']
  | .classKeyword => ['c', 'l', 'a', 's', 's']
  | .structKeyword => ['s', 't', 'r', 'u', 'c', 't']
  | .interfaceKeyword => ['i', 'n', 't', 'e', 'r', 'f', 'a', 'c', 'e']
  | .traitKeyword => ['t', 'r', 'a', 'i', 't']
  | .enumKeyword => ['e', 'n', 'u', 'm']

/-- The kind of symbol a keyword declares. -/
def kind : Keyword → SymbolKind
  | .classKeyword => .classKind
  | .structKeyword => .struct
  | .interfaceKeyword | .traitKeyword => .interface
  | .enumKeyword => .enumKind
  | _ => .method

end Keyword

/-! ## One declaration -/

/-- Whether a character is a space or a tab. -/
def isGap (c : Char) : Bool :=
  c == ' ' || c == '\t'

/-- Whether a character may start a declared name. -/
def isNameStart (c : Char) : Bool :=
  ('a' ≤ c && c ≤ 'z') || ('A' ≤ c && c ≤ 'Z') || c == '_' || c == '$'

/-- Whether a character may continue a declared name. -/
def isNamePart (c : Char) : Bool :=
  isWordCharacter c || c == '$'

/-- A declaration at the front of a text: the characters up to the name, and the name. -/
structure DeclarationHead where
  keyword : Keyword
  lead : Text
  name : Text
deriving DecidableEq, Repr

namespace DeclarationHead

/-- The name at the front of a text, as long as it can be. -/
def name? : Text → Option Text
  | [] => none
  | c :: rest => if isNameStart c then some (c :: rest.takeWhile isNamePart) else none

/-- A receiver at the front of a text with the gap behind it. -/
def receiver? : Text → Option Text
  | '(' :: rest =>
    let inside := rest.takeWhile fun c => c != ')' && c != '\n'
    match rest.drop inside.length with
    | ')' :: after => some ('(' :: inside ++ ')' :: after.takeWhile isGap)
    | _ => none
  | _ => none

/-- A declaration by the given keyword at the front of a text. -/
def withKeyword? (text : Text) (keyword : Keyword) : Option DeclarationHead := do
  let spelling := keyword.spelling
  guard (spelling.isPrefixOf text)
  let gap := (text.drop spelling.length).takeWhile isGap
  guard (!gap.isEmpty)
  let afterGap := text.drop (spelling.length + gap.length)
  let receiver := (receiver? afterGap).getD []
  let name ← name? (afterGap.drop receiver.length)
  return { keyword, lead := spelling ++ gap ++ receiver, name }

/-- The declaration at the front of a text that `previous` precedes. -/
def at? (previous : Option Char) (text : Text) : Option DeclarationHead :=
  if previous.any isWordCharacter then none
  else Keyword.all.findSome? (withKeyword? text)

/-- How many characters a declaration takes. -/
def length (head : DeclarationHead) : Nat :=
  head.lead.length + head.name.length

end DeclarationHead

/-! ## All declarations -/

/-- A declaration with the byte offsets of its keyword and its name. -/
structure Declaration where
  keyword : Keyword
  start : Nat
  name : Span
deriving DecidableEq, Repr

namespace Declaration

/-- The declarations of a text that `previous` precedes and that starts at byte `offset`. -/
def scanFrom (previous : Option Char) (offset : Nat) : Text → List Declaration
  | [] => []
  | c :: rest =>
    match DeclarationHead.at? previous (c :: rest) with
    | some head =>
      let nameStart := offset + Text.utf8Length head.lead
      let nameStop := nameStart + Text.utf8Length head.name
      { keyword := head.keyword, start := offset, name := { start := nameStart, stop := nameStop } } ::
        scanFrom head.name.getLast? nameStop (rest.drop (head.length - 1))
    | none => scanFrom (some c) (offset + c.utf8Size) rest
termination_by text => text.length
decreasing_by
  · simp only [List.length_drop, List.length_cons]; omega
  · simp

/-- The symbol of a declaration in a document with the given line starts. -/
def symbol? (uri : Uri) (content : Text) (starts : List Nat) (declaration : Declaration) :
    Option Symbol := do
  let name ← content.slice? declaration.name.start declaration.name.stop
  let start ← Text.positionAt? starts content declaration.name.start
  let stop ← Text.positionAt? starts content declaration.name.stop
  return { name, kind := declaration.keyword.kind, uri, range := { start, stop } }

end Declaration

namespace Text

/-- The declarations of a document in the order of their places. -/
def declarations (content : Text) : List Declaration :=
  Declaration.scanFrom none 0 content

/-- The symbols that a document declares, in the order of their places. -/
def symbols (content : Text) (uri : Uri) : List Symbol :=
  content.declarations.filterMap (Declaration.symbol? uri content content.lineStarts)

end Text

end GotoDefinition
