import GotoDefinition.Position
import GotoDefinition.Text.Blank
import GotoDefinition.Text.Units

/-!
# The word under a cursor

A pattern has matches on a line: spans of bytes from left to right, none of them
overlapping the one before.  The word at a column is the first match that is not
empty and that the cursor lies in or touches at either edge.  Spans are cut and
measured by the partial functions of `Text.Units`; every span of a pattern is at
character boundaries, so a span that is found always becomes a word.

The pattern of default words is always there.  A pattern that is made from a text has
to be compiled first, which a `PatternCompiler` may refuse.
-/

namespace GotoDefinition

/-- Part of a line between two byte offsets. -/
structure Span where
  start : Nat
  stop : Nat
deriving DecidableEq, Repr

/-- A piece of a line with its UTF-16 columns. -/
structure Word where
  text : Text
  start : Nat
  stop : Nat
deriving DecidableEq, Repr

namespace Word

/-- The range a word covers on a given line. -/
def toRange (word : Word) (line : Nat) : Range :=
  { start := { line, character := word.start }, stop := { line, character := word.stop } }

/-- The word that a span of a line covers. -/
def ofSpan? (line : Text) (span : Span) : Option Word := do
  let text ← line.slice? span.start span.stop
  let start ← line.columnOfByte? span.start
  let stop ← line.columnOfByte? span.stop
  return { text, start, stop }

end Word

/-! ## Default words -/

/-- The punctuation characters that end a word. -/
def wordSeparators : Text :=
  "`~!@#%^&*()-=+[\x7b]\x7d\\|;:'\",.<>/?".toList

/-- Whether a character belongs to a word: neither white space nor a separator. -/
def isWordPart (c : Char) : Bool :=
  !isBlank c && !wordSeparators.contains c

/-! ## Patterns -/

/-- How often a character class may repeat in one match. -/
inductive Repetition where
  | zeroOrMore
  | oneOrMore
deriving DecidableEq, Repr

/-- What is looked for on a line. -/
inductive Pattern where
  /-- Exactly this text. -/
  | literal (text : Text)
  /-- As many characters of a class as follow each other. -/
  | run (member : Char → Bool) (repetition : Repetition)

namespace Pattern

/-- The matches of a non-empty text in a line that starts at byte `offset`. -/
def literalMatches (needle : Text) (offset : Nat) : Text → List Span
  | [] => []
  | c :: rest =>
    if needle.isPrefixOf (c :: rest) then
      { start := offset, stop := offset + Text.utf8Length needle } ::
        literalMatches needle (offset + Text.utf8Length needle) (rest.drop (needle.length - 1))
    else
      literalMatches needle (offset + c.utf8Size) rest
termination_by line => line.length
decreasing_by
  · simp only [List.length_drop, List.length_cons]; omega
  · simp

/-- The empty matches of the empty text: one before each character and one at the end. -/
def emptyMatches (offset : Nat) : Text → List Span
  | [] => [{ start := offset, stop := offset }]
  | c :: rest => { start := offset, stop := offset } :: emptyMatches (offset + c.utf8Size) rest

/-- The matches of a repeated class in a line that starts at byte `offset`.  When the
repetition may be empty, a place without a member is an empty match, unless the
match before it ends there (`touching`). -/
def runMatches (member : Char → Bool) (repetition : Repetition) (touching : Bool) (offset : Nat) :
    Text → List Span
  | [] =>
    if repetition = .zeroOrMore && !touching then [{ start := offset, stop := offset }] else []
  | c :: rest =>
    if member c then
      let stop := offset + Text.utf8Length (c :: rest.takeWhile member)
      { start := offset, stop } :: runMatches member repetition true stop (rest.dropWhile member)
    else
      (if repetition = .zeroOrMore && !touching then [{ start := offset, stop := offset }] else [])
        ++ runMatches member repetition false (offset + c.utf8Size) rest
termination_by line => line.length
decreasing_by
  · exact Nat.lt_succ_of_le (List.dropWhile_sublist member).length_le
  · simp

/-- All matches of a pattern on a line, from left to right. -/
def spans (pattern : Pattern) (line : Text) : List Span :=
  match pattern with
  | .literal [] => emptyMatches 0 line
  | .literal needle => literalMatches needle 0 line
  | .run member repetition => runMatches member repetition false 0 line

end Pattern

/-- The pattern of default words. -/
def defaultWordPattern : Pattern :=
  .run isWordPart .oneOrMore

/-! ## Compiling -/

/-- What compiles patterns.  A pattern is compiled before it can match, and one that grows too
large on the way is refused.  How large a pattern grows is the compiler's own affair. -/
structure PatternCompiler where
  /-- Whether a text can be compiled as a literal. -/
  accepts : Text → Bool

namespace PatternCompiler

/-- The pattern that matches exactly the given text, unless it is refused. -/
def literal? (compiler : PatternCompiler) (text : Text) : Option Pattern :=
  if compiler.accepts text then some (.literal text) else none

/-- The bytes that a compiled literal takes: 32 for each byte of the text, and a few states
that lead into it and out of it. -/
def literalSize (text : Text) : Nat :=
  32 * text.utf8Length + 208

/-- The most bytes that a compiled pattern may take: ten mebibytes. -/
def sizeLimit : Nat :=
  10 * 1024 * 1024

/-- The compiler of a server that is not given another one. -/
def standard : PatternCompiler where
  accepts text := literalSize text ≤ sizeLimit

end PatternCompiler

/-! ## Selection -/

/-- The first span that is not empty and holds the byte offset `cursor`, both edges
included.  The search stops at the first span that starts after the cursor. -/
def spanAt? (spans : List Span) (cursor : Nat) : Option Span :=
  ((spans.filter fun span => span.start != span.stop).takeWhile fun span =>
    span.start ≤ cursor).find? fun span => cursor ≤ span.stop

namespace Text

/-- The word that one of the given spans of a line makes at a UTF-16 column. -/
def wordAmong? (line : Text) (column : Nat) (spans : List Span) : Option Word :=
  (spanAt? spans (line.byteOfColumn column)).bind (Word.ofSpan? line)

/-- The match of a pattern at a UTF-16 column. -/
def matchAt? (line : Text) (column : Nat) (pattern : Pattern) : Option Word :=
  line.wordAmong? column (pattern.spans line)

/-- The default word at a UTF-16 column. -/
def wordAt? (line : Text) (column : Nat) : Option Word :=
  line.matchAt? column defaultWordPattern

end Text

end GotoDefinition
