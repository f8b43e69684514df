import GotoDefinition.Ignore.Walk
import GotoDefinition.Index.Basic

/-!
# Indexing a workspace

Every file that a walk visits and that is not too large is indexed; files that cannot
be read as text are passed over.
-/

namespace GotoDefinition.Index

/-- Index one visited file, and count it if that was possible. -/
def indexVisit (disk : Disk) (maxFileSize : Nat) (state : Index × Nat) (visit : Ignore.Visit) :
    Index × Nat :=
  let (index, count) := state
  if maxFileSize < visit.content.length then (index, count)
  else
    match index.indexFile disk visit.path with
    | .ok (index, _) => (index, count + 1)
    | .error _ => (index, count)

/-- Index the files of a workspace, and the number of files that were indexed. -/
def indexWorkspace (index : Index) (disk : Disk) (root : Path) (maxFileSize : Nat) : Index × Nat :=
  (Ignore.walk disk root).foldl (indexVisit disk maxFileSize) (index, 0)

end GotoDefinition.Index
