import GotoDefinition.Text.Utf8

/-!
# Paths

A path is a sequence of bytes with slashes between the names.  Repeated slashes and
single dots carry no meaning for the components of a path; double dots do.
-/

namespace GotoDefinition

/-- A path of the file system. -/
abbrev Path := Bytes

namespace Path

/-- The slash that divides the names of a path. -/
def slash : UInt8 := 0x2F

/-- The path that a text spells. -/
def ofText (text : Text) : Path :=
  text.utf8Bytes

/-- The path that a string spells. -/
def ofString (text : String) : Path :=
  Text.utf8Bytes text.toList

/-- How a path is shown to people. -/
def display (path : Path) : String :=
  String.ofList (Text.ofUtf8Lossy path)

/-- Whether a path starts at the root of the file system. -/
def isAbsolute (path : Path) : Bool :=
  path.head? == some slash

/-- The pieces of a path between its slashes. -/
def pieces : Path → List Bytes
  | [] => [[]]
  | byte :: rest =>
    if byte == slash then [] :: pieces rest
    else
      match pieces rest with
      | [] => [[byte]]
      | piece :: others => (byte :: piece) :: others

/-- The name that stands for the directory itself. -/
def currentName : Bytes := [0x2E]

/-- The name that stands for the parent directory. -/
def parentName : Bytes := [0x2E, 0x2E]

/-- The names a path goes through, those left out that lead nowhere. -/
def components (path : Path) : List Bytes :=
  (pieces path).filter fun piece => !piece.isEmpty && piece != currentName

/-- Whether a path is a way to write the current directory: a dot, and nothing else that
counts. -/
def isCurrent (path : Path) : Bool :=
  path.pieces.head? == some currentName && path.components.isEmpty

/-- A path without some bytes in front, if it begins with them. -/
def without (path start : Path) : Path :=
  if start.isPrefixOf path then path.drop start.length else path

/-- A path without a slash in front. -/
def withoutSlash (path : Path) : Path :=
  path.without [slash]

/-- A path without a dot and a slash in front, which mean nothing there. -/
def withoutDot (path : Path) : Path :=
  path.without [0x2E, slash]

/-- A path followed by another one: an absolute one replaces it, and one slash is put
between the two unless the first ends in one or is empty. -/
def join (path next : Path) : Path :=
  if isAbsolute next then next
  else if path.isEmpty || path.getLast? == some slash then path ++ next
  else path ++ slash :: next

end Path

/-! ## Names -/

/-- Whether bytes may name a file within its directory. -/
def isFileName (bytes : Bytes) : Bool :=
  !bytes.isEmpty && bytes != Path.currentName && bytes != Path.parentName &&
    !bytes.contains Path.slash

/-- The name of a file or directory within its parent. -/
structure FileName where
  bytes : Bytes
  valid : isFileName bytes = true
deriving DecidableEq, Repr

namespace FileName

/-- The bytes as a name, if they are one. -/
def ofBytes? (bytes : Bytes) : Option FileName :=
  if valid : isFileName bytes = true then some ⟨bytes, valid⟩ else none

/-- Whether a name is hidden, that is, begins with a dot. -/
def isHidden (name : FileName) : Bool :=
  name.bytes.head? == some 0x2E

end FileName

/-- The names that lead from the root of the file system to a file or directory. -/
abbrev Location := List FileName

namespace Location

/-- A location as a path relative to another one above it. -/
def toPath : Location → Path
  | [] => []
  | [name] => name.bytes
  | name :: names => name.bytes ++ Path.slash :: toPath names

end Location

end GotoDefinition
