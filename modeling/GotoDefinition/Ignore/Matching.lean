import GotoDefinition.Ignore.Glob

/-!
# Matching of globs

A glob is matched part by part against all of a path at once.  Every place between two
bytes of the path, its start and its end included, is marked or not; before the first
part only the start is marked, and each part moves the marks to the places that it can
reach from them.  The glob matches if the end is marked at last.
-/

namespace GotoDefinition.Ignore

/-- The slash as a byte. -/
def slashByte : UInt8 := 0x2F

/-- Whether a byte is the slash. -/
def isSlash (byte : UInt8) : Bool :=
  byte == slashByte

/-- Whether each place in a path is marked, one more than the path has bytes. -/
abbrev Marks := List Bool

namespace Marks

/-- Nothing is marked. -/
def none (path : Bytes) : Marks :=
  false :: path.map fun _ => false

/-- Only the start of a path is marked. -/
def start (path : Bytes) : Marks :=
  true :: path.map fun _ => false

/-- Move every mark over one byte that is accepted. -/
def advance (accepts : UInt8 → Bool) (path : Bytes) (marks : Marks) : Marks :=
  false :: List.zipWith (fun byte mark => mark && accepts byte) path marks

/-- Carry every mark on over as many accepted bytes as there are; `carried` says whether a
mark comes in from the left. -/
def carry (accepts : UInt8 → Bool) (carried : Bool) : Bytes → Marks → Marks
  | _, [] => []
  | [], mark :: _ => [carried || mark]
  | byte :: path, mark :: marks =>
    let here := carried || mark
    here :: carry accepts (here && accepts byte) path marks

/-- The places that are marked in one of two ways. -/
def union (first second : Marks) : Marks :=
  List.zipWith (· || ·) first second

/-- Carry every mark on to the place behind each later slash. -/
def intoDirectories (path : Bytes) (marks : Marks) : Marks :=
  advance isSlash path (carry (fun _ => true) false path marks)

end Marks

mutual

/-- Move marks over one part of a glob. -/
def Token.move (path : Bytes) : Token → Marks → Marks
  | .literal c, marks =>
    (String.utf8EncodeChar c).foldl (fun marks byte => marks.advance (· == byte) path) marks
  | .any, marks => marks.advance (fun byte => !isSlash byte) path
  | .star, marks => marks.carry (fun byte => !isSlash byte) false path
  | .byteClass negated ranges, marks =>
    let accepts (byte : UInt8) : Bool :=
      (ranges.any fun (low, high) => low ≤ byte.toNat && byte.toNat ≤ high) != negated
    marks.advance accepts path
  | .anyAbove, marks => marks.union (marks.intoDirectories path)
  | .anyBetween, marks =>
    let behindSlash := marks.advance isSlash path
    behindSlash.union (behindSlash.intoDirectories path)
  | .anyBelow, marks => (marks.advance isSlash path).carry (fun _ => true) false path
  | .oneOf branches, marks =>
    if branches.isEmpty then marks else moveOverOne path branches marks

/-- Move marks over a sequence of parts. -/
def moveOver (path : Bytes) : List Token → Marks → Marks
  | [], marks => marks
  | token :: tokens, marks => moveOver path tokens (token.move path marks)

/-- Move marks over one of several globs. -/
def moveOverOne (path : Bytes) : List (List Token) → Marks → Marks
  | [], _ => Marks.none path
  | branch :: branches, marks =>
    (moveOver path branch marks).union (moveOverOne path branches marks)

end

/-- Whether a glob matches a relative path.  A lone double star matches every path. -/
def Glob.matches (glob : Glob) (path : Bytes) : Bool :=
  match glob with
  | [.anyAbove] => true
  | glob => (moveOver path glob (Marks.start path)).getLast? == some true

end GotoDefinition.Ignore
