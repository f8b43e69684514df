import GotoDefinition.Disk.Basic
import GotoDefinition.Ignore.Rules

/-!
# The files of a workspace

A file below a root is visited unless it, or a directory between the root and it, is
skipped.  The ignore files in all directories above a path have a say, deeper ones
first: `.ignore` everywhere, and behind it `.gitignore` and the exclude file of the
repository, but these two only inside a repository and not beyond its own directory.
Names that begin with a dot are skipped unless a rule takes them back.

Paths are made relative to the directory of an ignore file by their spelling, so that it
matters how the root is written: a directory whose spelling is not at the front of the
spelling of a path sees the path as it is.
-/

namespace GotoDefinition.Ignore

/-! ## Ignore files on disk -/

/-- The ignore file that counts everywhere. -/
def ignoreFile : FileName := ⟨Path.ofString ".ignore", by decide⟩

/-- The ignore file that counts inside a repository. -/
def repositoryIgnoreFile : FileName := ⟨Path.ofString ".gitignore", by decide⟩

/-- What makes a directory the top of a repository; it holds the exclude file. -/
def repositoryDirectory : FileName := ⟨Path.ofString ".git", by decide⟩

/-- What also makes a directory the top of a repository, one without an exclude file. -/
def otherRepositoryDirectory : FileName := ⟨Path.ofString ".jj", by decide⟩

/-- The rules in the file at a location, none if there is no such file. -/
def rulesAt (disk : Disk) (location : Location) : List Rule :=
  match disk.entry? location with
  | some (.file content) => rulesOf content
  | _ => []

/-- The rules in the file at a path, none if there is no such file. -/
def rulesAtPath (disk : Disk) (path : Path) : List Rule :=
  match disk.read path with
  | .ok content => rulesOf content
  | .error _ => []

/-- The first line of a file, if it is UTF-8. -/
def firstLine? (disk : Disk) (path : Path) : Option Text :=
  match disk.read path with
  | .ok content => (fileLines content).head?.bind Text.ofUtf8?
  | .error _ => none

/-- The absolute path of a location. -/
def absolutePath (location : Location) : Path :=
  Path.slash :: location.toPath

/-- The rules that a repository excludes files by.  Where the repository directory is a
file, it names the directory of a linked working tree, which in turn names the common one. -/
def excludeRules (disk : Disk) (directory : Location) : List Rule :=
  let repository := directory ++ [repositoryDirectory]
  match disk.entry? repository with
  | none => []
  | some .directory => rulesAtPath disk (absolutePath repository ++ Path.ofString "/info/exclude")
  | some (.file _) =>
    let linked? := do
      let line ← firstLine? disk (absolutePath repository)
      if "gitdir: ".toList.isPrefixOf line then some (Path.ofText (line.drop 8)) else none
    let common? := do
      let linked ← linked?
      let line ← firstLine? disk (linked.join (Path.ofString "commondir"))
      if line.head? == some '.' then some (linked.join (Path.ofText line)) else some (Path.ofText line)
    match common? with
    | some common => rulesAtPath disk (common.join (Path.ofString "info/exclude"))
    | none => []

/-- Whether a directory is the top of a repository of either kind. -/
def isRepository (disk : Disk) (directory : Location) : Bool :=
  (disk.entry? (directory ++ [repositoryDirectory])).isSome ||
    (disk.entry? (directory ++ [otherRepositoryDirectory])).isSome

/-! ## Candidates -/

/-- A directory whose ignore files have a say about a path, and the path as they see it. -/
structure Outlook where
  directory : Location
  path : Path

/-- A walk: the path of its root, and where that leads. -/
structure Root where
  path : Path
  location : Location

namespace Root

/-- The path of what has the given names below the root, as the walk spells it. -/
def pathOf (root : Root) (names : Location) : Path :=
  names.foldl (fun path name => path.join name.bytes) root.path

/-- A path as the ignore files of a directory see it: without the directory in front, if
both are spelled alike. -/
def seenFrom (directory path : Path) : Path :=
  let directory := directory.withoutDot
  let path := path.withoutDot
  if directory.isCurrent || !path.contains Path.slash then path
  else if directory.isPrefixOf path then (path.without directory).withoutSlash
  else path

/-- A path without the root in front. -/
def below (root : Root) (path : Path) : Path :=
  if root.path.isCurrent then path
  else (path.without root.path.withoutDot).withoutSlash

/-- The proper beginnings of a location, the longest first. -/
def directoriesAbove (location : Location) : List Location :=
  (Disk.ancestors location).reverse

/-- The outlooks on what has the given names below the root, the deepest first.  For
directories above the root its absolute path counts. -/
def outlooks (root : Root) (names : Location) : List Outlook :=
  let path := (root.pathOf names).withoutDot
  let inside := (directoriesAbove names).map fun above =>
    { directory := root.location ++ above, path := seenFrom (root.pathOf above) path }
  let absolute := (absolutePath root.location).join (root.below path)
  let outside := (directoriesAbove root.location).map fun directory =>
    { directory, path := seenFrom (absolutePath directory) absolute }
  inside ++ outside

end Root

/-! ## The verdict on one candidate -/

/-- The outlooks up to the first from the top of a repository. -/
def withinRepository (disk : Disk) : List Outlook → List Outlook
  | [] => []
  | outlook :: above =>
    outlook :: if isRepository disk outlook.directory then [] else withinRepository disk above

/-- What one kind of ignore file, read by `rules` from each directory, says; the first
directory that says something counts. -/
def verdictFrom? (rules : Location → List Rule) (outlooks : List Outlook) (isDirectory : Bool) :
    Option Verdict :=
  outlooks.findSome? fun outlook => verdict? (rules outlook.directory) outlook.path isDirectory

/-- What the ignore files say that have a say. -/
def ignoreVerdict? (disk : Disk) (outlooks : List Outlook) (isDirectory : Bool) : Option Verdict :=
  let repository :=
    if outlooks.any fun outlook => isRepository disk outlook.directory then
      withinRepository disk outlooks
    else []
  let plain := verdictFrom? (fun directory => rulesAt disk (directory ++ [ignoreFile])) outlooks
    isDirectory
  let tracked := verdictFrom? (fun directory => rulesAt disk (directory ++ [repositoryIgnoreFile]))
    repository isDirectory
  let excluded := verdictFrom? (excludeRules disk) repository isDirectory
  plain <|> tracked <|> excluded

/-- Whether a walk skips what has the given names below its root. -/
def isSkipped (disk : Disk) (root : Root) (names : Location) (isDirectory : Bool) : Bool :=
  match ignoreVerdict? disk (root.outlooks names) isDirectory with
  | some .ignored => true
  | some .whitelisted => false
  | none => names.getLast?.any FileName.isHidden

/-! ## The walk -/

/-- A file that a walk visits. -/
structure Visit where
  /-- The path of the file as the walk spells it: the root and the names below it. -/
  path : Path
  content : Bytes
deriving DecidableEq, Repr

/-- Whether a walk reaches the file with the given names below its root. -/
def reaches (disk : Disk) (root : Root) (names : Location) : Bool :=
  !isSkipped disk root names false &&
    ((Disk.ancestors names).drop 1).all fun directory => !isSkipped disk root directory true

/-- The files below a directory that a walk from it visits. -/
def visitsBelow (disk : Disk) (root : Root) : List Visit :=
  disk.entries.filterMap fun (location, entry) =>
    let names := location.drop root.location.length
    match entry with
    | .directory => none
    | .file content =>
      if root.location.isPrefixOf location && !names.isEmpty && reaches disk root names then
        some { path := root.pathOf names, content }
      else none

/-- The path that stands for standard input and not for a file. -/
def standardInput : Path := [0x2D]

/-- The files that a walk from a root visits.  A root that is a file is always visited. -/
def walk (disk : Disk) (root : Path) : List Visit :=
  if root == standardInput then []
  else
    match disk.locate root with
    | .error _ => []
    | .ok location =>
      match disk.entry? location with
      | none => []
      | some (.file content) => [{ path := root, content }]
      | some .directory => visitsBelow disk { path := root, location }

end GotoDefinition.Ignore
