import GotoDefinition.Disk.Path

/-!
# The disk

A disk is a finite table of the files and directories at each location, every location
at most once.  The root is always a directory.  A path is followed from the root or
from the working directory, and every place it passes through has to be a directory.
-/

namespace GotoDefinition

/-- What stands at a location. -/
inductive DiskEntry where
  | file (content : Bytes)
  | directory
deriving DecidableEq, Repr

/-- Why a file cannot be read. -/
inductive ReadError where
  | notFound
  | notDirectory
  | isDirectory
deriving DecidableEq, Repr

namespace ReadError

/-- The wording of an error. -/
def message : ReadError → String
  | .notFound => "No such file or directory (os error 2)"
  | .notDirectory => "Not a directory (os error 20)"
  | .isDirectory => "Is a directory (os error 21)"

end ReadError

/-- The files and directories below the root, and the working directory. -/
structure Disk where
  entries : List (Location × DiskEntry) := []
  workingDirectory : Location := []
  distinct : (entries.map Prod.fst).Nodup := by simp

namespace Disk

/-! ## Looking at a disk -/

/-- What stands at a location. -/
def entry? (disk : Disk) (location : Location) : Option DiskEntry :=
  if location = [] then some .directory else disk.entries.lookup location

/-- Follow the pieces of a path from a location. -/
def follow (disk : Disk) : Location → List Bytes → Except ReadError Location
  | location, [] => .ok location
  | location, piece :: pieces =>
    match disk.entry? location with
    | none => .error .notFound
    | some (.file _) => .error .notDirectory
    | some .directory =>
      if piece.isEmpty || piece == Path.currentName then disk.follow location pieces
      else if piece == Path.parentName then disk.follow location.dropLast pieces
      else
        match FileName.ofBytes? piece with
        | some name => disk.follow (location ++ [name]) pieces
        | none => .error .notFound

/-- The location that a path leads to, whether or not anything stands there. -/
def locate (disk : Disk) (path : Path) : Except ReadError Location :=
  if path.isEmpty then .error .notFound
  else disk.follow (if path.isAbsolute then [] else disk.workingDirectory) path.pieces

/-- What a path leads to. -/
def at? (disk : Disk) (path : Path) : Option DiskEntry :=
  match disk.locate path with
  | .ok location => disk.entry? location
  | .error _ => none

/-- The content of the file at a path. -/
def read (disk : Disk) (path : Path) : Except ReadError Bytes :=
  match disk.locate path with
  | .error reason => .error reason
  | .ok location =>
    match disk.entry? location with
    | none => .error .notFound
    | some .directory => .error .isDirectory
    | some (.file content) => .ok content

/-- Whether a path leads to a file. -/
def isFile (disk : Disk) (path : Path) : Bool :=
  match disk.at? path with
  | some (.file _) => true
  | _ => false

/-! ## Changing a disk -/

/-- The disk without the locations that `removed` selects. -/
def eraseWhere (disk : Disk) (removed : Location → Bool) : Disk where
  entries := disk.entries.filter fun entry => !removed entry.1
  workingDirectory := disk.workingDirectory
  distinct := (List.filter_sublist.map Prod.fst).nodup disk.distinct

theorem not_mem_eraseWhere (disk : Disk) (location : Location) :
    location ∉ (disk.eraseWhere (· == location)).entries.map Prod.fst := by
  intro member
  obtain ⟨entry, isEntry, rfl⟩ := List.mem_map.1 member
  simp [eraseWhere] at isEntry

/-- The disk with an entry at one location and all other entries unchanged. -/
def set (disk : Disk) (location : Location) (entry : DiskEntry) : Disk where
  entries := (location, entry) :: (disk.eraseWhere (· == location)).entries
  workingDirectory := disk.workingDirectory
  distinct := by
    rw [List.map_cons, List.nodup_cons]
    exact ⟨not_mem_eraseWhere disk location, (disk.eraseWhere (· == location)).distinct⟩

/-- The disk with a directory at a location where nothing stands. -/
def ensureDirectory (disk : Disk) (location : Location) : Disk :=
  if (disk.entry? location).isSome then disk else disk.set location .directory

/-- The locations above a location, the root first. -/
def ancestors (location : Location) : List Location :=
  (List.range location.length).map location.take

/-- The disk with an entry at a location and the directories above it. -/
def put (disk : Disk) (location : Location) (entry : DiskEntry) : Disk :=
  ((ancestors location).foldl ensureDirectory disk).set location entry

/-- The disk without a location and what lies below it. -/
def erase (disk : Disk) (location : Location) : Disk :=
  disk.eraseWhere location.isPrefixOf

/-- The location that the names of a path spell from the working directory, or from the
root, without a look at the disk. -/
def target (disk : Disk) (path : Path) : Location :=
  let start := if path.isAbsolute then [] else disk.workingDirectory
  path.components.foldl
    (fun location piece =>
      match FileName.ofBytes? piece with
      | some name => location ++ [name]
      | none => location.dropLast)
    start

/-- Write a file or make a directory at a path, with the directories above it. -/
def write (disk : Disk) (path : Path) (entry : DiskEntry) : Disk :=
  disk.put (disk.target path) entry

/-- Remove what is at a path. -/
def remove (disk : Disk) (path : Path) : Disk :=
  disk.erase (disk.target path)

end Disk

end GotoDefinition
