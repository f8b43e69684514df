import GotoDefinition.Position
import GotoDefinition.Text.Units

/-!
# Lines of a document

A line ends at a line feed, at a carriage return, or at both together; the
terminator belongs to no line, and a final terminator is followed by one empty
line.  `lineAt` walks to a line by number.  `lineStarts` and `positionAt?` go the
other way, from a byte offset of the whole document to a line and column.
-/

namespace GotoDefinition.Text

/-- Whether a character ends a line. -/
def isTerminator (c : Char) : Bool :=
  c == '\n' || c == '\r'

/-- What follows the first line terminator, a carriage return and a line feed
together being one terminator. -/
def afterLine? : Text → Option Text
  | [] => none
  | '\r' :: '\n' :: rest => some rest
  | c :: rest => if isTerminator c then some rest else afterLine? rest

/-- Line number `n` of a document without its terminator. -/
def lineAt : Text → Nat → Option Text
  | content, 0 => some (content.takeWhile fun c => !isTerminator c)
  | content, n + 1 => (afterLine? content).bind (lineAt · n)

/-- The byte offsets at which the lines after the first one start, when the text
itself starts at `offset`. -/
def lineStartsFrom : Nat → Text → List Nat
  | _, [] => []
  | offset, c :: rest =>
    let next := offset + c.utf8Size
    if c == '\n' || (c == '\r' && rest.head? != some '\n') then
      next :: lineStartsFrom next rest
    else
      lineStartsFrom next rest

/-- The byte offsets at which the lines of a document start. -/
def lineStarts (content : Text) : List Nat :=
  0 :: lineStartsFrom 0 content

/-- The position of a byte offset, given the line starts of the document: the last
line that starts no later, and the column on it. -/
def positionAt? (starts : List Nat) (content : Text) (offset : Nat) : Option Position := do
  let line := (starts.takeWhile (· ≤ offset)).length - 1
  let start ← starts[line]?
  let fromStart ← content.dropBytes? start
  let character ← fromStart.columnOfByte? (offset - start)
  return { line, character }

end GotoDefinition.Text
