import GotoDefinition.Ignore.Matching
import GotoDefinition.Text.Blank

/-!
# Ignore files

Each line of an ignore file is a rule: a glob for paths below the directory of the
file.  A rule that starts with an exclamation mark takes paths back, one that ends with
a slash is for directories only, and one without an inner slash counts at every depth.
The last rule that matches a path decides.
-/

namespace GotoDefinition.Ignore

/-- One line of an ignore file. -/
structure Rule where
  glob : Glob
  /-- Whether the rule takes back what earlier rules ignore. -/
  whitelists : Bool
  directoriesOnly : Bool
deriving Repr

/-- What the rules say about a path. -/
inductive Verdict where
  | ignored
  | whitelisted
deriving DecidableEq, Repr

namespace Rule

/-- The line without blanks at its end, unless the last of them is an escaped space. -/
def trimmed (line : Text) : Text :=
  if "\\ ".toList.isSuffixOf line then line else (line.reverse.dropWhile isBlank).reverse

/-- Whether a glob begins with a double star for directories. -/
def startsWithDoubleStar (glob : Text) : Bool :=
  "**/".toList.isPrefixOf glob || glob == "**".toList

/-- The glob of a rule: a rule without a slash counts at every depth, and one for
everything below a directory does not count for the directory itself. -/
def globText (anchored : Bool) (body : Text) : Text :=
  let glob :=
    if !anchored && !body.contains '/' && !startsWithDoubleStar body then "**/".toList ++ body
    else body
  if "/**".toList.isSuffixOf glob then glob ++ "/*".toList else glob

/-- The rule of a line, if it holds one. -/
def parse? (line : Text) : Option Rule := do
  if line.head? == some '#' then none
  let line := trimmed line
  if line.isEmpty then none
  let (whitelists, anchored, body) :=
    match line with
    | '\\' :: '!' :: _ | '\\' :: '#' :: _ => (false, false, line.drop 1)
    | '!' :: '/' :: body => (true, true, body)
    | '!' :: body => (true, false, body)
    | '/' :: body => (false, true, body)
    | body => (false, false, body)
  let directoriesOnly := body.getLast? == some '/'
  let body := if directoriesOnly then body.dropLast else body
  let body := if directoriesOnly && body.getLast? == some '\\' then body.dropLast else body
  let glob ← Glob.parse? (globText anchored body)
  return { glob, whitelists, directoriesOnly }

/-- Whether a rule is about a path, which is relative to the directory of its file. -/
def appliesTo (rule : Rule) (path : Bytes) (isDirectory : Bool) : Bool :=
  (!rule.directoriesOnly || isDirectory) && rule.glob.matches path

end Rule

/-! ## Whole files -/

/-- The pieces of a file between its line feeds. -/
def linePieces : Bytes → List Bytes
  | [] => [[]]
  | byte :: rest =>
    if byte == 0x0A then [] :: linePieces rest
    else
      match linePieces rest with
      | [] => [[byte]]
      | line :: lines => (byte :: line) :: lines

/-- A line without the carriage return at its end. -/
def withoutReturn (line : Bytes) : Bytes :=
  if line.getLast? == some 0x0D then line.dropLast else line

/-- The lines of a file: the pieces between line feeds, without a carriage return before
the line feed, and no line after a final line feed. -/
def fileLines (bytes : Bytes) : List Bytes :=
  let pieces := linePieces bytes
  let last := pieces.getLast?.getD []
  pieces.dropLast.map withoutReturn ++ if last.isEmpty then [] else [last]

/-- The texts of the lines before the first one that is not UTF-8. -/
def readableLines : List Bytes → List Text
  | [] => []
  | line :: lines =>
    match Text.ofUtf8? line with
    | some text => text :: readableLines lines
    | none => []

/-- The rules of an ignore file; byte order marks in front of it do not count. -/
def rulesOf (bytes : Bytes) : List Rule :=
  match readableLines (fileLines bytes) with
  | [] => []
  | first :: rest =>
    ((first.dropWhile fun c => c.toNat == 0xFEFF) :: rest).filterMap Rule.parse?

/-- What the rules of one file say about a path: the last rule about it counts. -/
def verdict? (rules : List Rule) (path : Bytes) (isDirectory : Bool) : Option Verdict :=
  (rules.reverse.find? (·.appliesTo path isDirectory)).map fun rule =>
    if rule.whitelists then .whitelisted else .ignored

end GotoDefinition.Ignore
