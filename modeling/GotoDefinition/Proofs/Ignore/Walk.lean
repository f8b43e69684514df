import GotoDefinition.Ignore.Walk
import GotoDefinition.Proofs.Disk.Paths

/-!
# The files that a walk visits

A walk spells the path of a file by the names below its root.  On a disk that is a tree this path
leads to the file, and no two files are spelled with the same components.
-/

namespace GotoDefinition.Ignore

variable {disk : Disk} {root : Root}

/-! ## Spelling -/

/-- The root of a walk in the directory of the given name. -/
def Root.down (root : Root) (name : FileName) : Root :=
  { path := root.path.join name.bytes, location := root.location ++ [name] }

theorem Root.pathOf_cons (root : Root) (name : FileName) (names : Location) :
    root.pathOf (name :: names) = (root.down name).pathOf names := rfl

theorem Root.components_pathOf (nonempty : root.path ≠ []) (names : Location) :
    (root.pathOf names).components = root.path.components ++ names.map FileName.bytes := by
  induction names generalizing root with
  | nil => simp [pathOf]
  | cons name names ih =>
    rw [pathOf_cons, ih (Path.join_ne_nil nonempty name), down, Path.components_join nonempty,
      List.map_cons, List.append_assoc]
    rfl

theorem Root.isAbsolute_pathOf (nonempty : root.path ≠ []) (names : Location) :
    (root.pathOf names).isAbsolute = root.path.isAbsolute := by
  induction names generalizing root with
  | nil => rfl
  | cons name names ih =>
    rw [pathOf_cons, ih (Path.join_ne_nil nonempty name)]
    exact Path.isAbsolute_join nonempty name

theorem Root.locate_pathOf {names : Location} (found : disk.locate root.path = .ok root.location)
    (directories : ∀ above ∈ Disk.ancestors names,
      disk.entry? (root.location ++ above) = some .directory) :
    disk.locate (root.pathOf names) = .ok (root.location ++ names) := by
  induction names generalizing root with
  | nil => simpa [pathOf] using found
  | cons name names ih =>
    have ancestors_cons : Disk.ancestors (name :: names) =
        [] :: (Disk.ancestors names).map (name :: ·) := by
      simp [Disk.ancestors, List.range_succ_eq_map]
    rw [ancestors_cons, List.forall_mem_cons] at directories
    obtain ⟨here, below⟩ := directories
    rw [List.append_nil] at here
    have next : disk.locate ((root.down name).pathOf names) =
        .ok (root.location ++ [name] ++ names) :=
      ih (Disk.locate_join found here name) (by simpa [down] using below)
    rw [pathOf_cons]
    simpa [down] using next

/-! ## Visits -/

/-- The visit of an entry of the disk, if the walk comes there. -/
def visit? (disk : Disk) (root : Root) (location : Location) (entry : DiskEntry) : Option Visit :=
  let names := location.drop root.location.length
  match entry with
  | .directory => none
  | .file content =>
    if root.location.isPrefixOf location && !names.isEmpty && reaches disk root names then
      some { path := root.pathOf names, content }
    else none

theorem visitsBelow_eq (disk : Disk) (root : Root) :
    visitsBelow disk root = disk.entries.filterMap fun entry => visit? disk root entry.1 entry.2 :=
  rfl

theorem exists_names_of_visit? {location : Location} {entry : DiskEntry} {visit : Visit}
    (isVisit : visit? disk root location entry = some visit) :
    ∃ names, names ≠ [] ∧ location = root.location ++ names ∧ entry = .file visit.content ∧
      visit.path = root.pathOf names := by
  cases entry with
  | directory => cases isVisit
  | file content =>
    simp only [visit?, Option.ite_none_right_eq_some, Bool.and_eq_true, Bool.not_eq_true',
      List.isEmpty_eq_false_iff, Option.some.injEq] at isVisit
    obtain ⟨⟨⟨below, notRoot⟩, -⟩, rfl⟩ := isVisit
    obtain ⟨names, rfl⟩ := List.isPrefixOf_iff_prefix.1 below
    rw [List.drop_left] at notRoot ⊢
    exact ⟨names, notRoot, rfl, rfl, rfl⟩

theorem read_of_mem_visitsBelow (tree : disk.IsTree)
    (found : disk.locate root.path = .ok root.location) {visit : Visit}
    (visited : visit ∈ visitsBelow disk root) : disk.read visit.path = .ok visit.content := by
  obtain ⟨⟨location, entry⟩, member, isVisit⟩ := List.mem_filterMap.1 visited
  obtain ⟨names, notRoot, rfl, rfl, path_eq⟩ := exists_names_of_visit? isVisit
  -- What is above the file and below the root of the walk is above the file on the disk.
  have directories : ∀ above ∈ Disk.ancestors names,
      disk.entry? (root.location ++ above) = some .directory := by
    intro above isAbove
    obtain ⟨count, inRange, rfl⟩ := List.mem_map.1 isAbove
    refine tree _ member _ (List.mem_map.2 ⟨root.location.length + count, ?_, ?_⟩)
    · simpa using inRange
    · exact List.take_length_add_append count
  rw [path_eq]
  exact Disk.read_eq_ok_iff.2
    ⟨_, root.locate_pathOf found directories, Disk.entry?_of_mem member (by simp [notRoot])⟩

/-- Locations that differ are spelled with different components. -/
theorem pairwise_visitsBelow (nonempty : root.path ≠ []) :
    (visitsBelow disk root).Pairwise fun visit other =>
      visit.path.components ≠ other.path.components := by
  have distinct : disk.entries.Pairwise fun entry other => entry.1 ≠ other.1 :=
    List.pairwise_map.1 disk.distinct
  rw [visitsBelow_eq]
  refine distinct.filterMap _ ?_
  intro entry other differ visit isVisit otherVisit isOther same
  obtain ⟨names, -, location_eq, -, path_eq⟩ := exists_names_of_visit? isVisit
  obtain ⟨otherNames, -, otherLocation_eq, -, otherPath_eq⟩ := exists_names_of_visit? isOther
  rw [path_eq, otherPath_eq, Root.components_pathOf nonempty, Root.components_pathOf nonempty,
    List.append_cancel_left_eq] at same
  obtain rfl := (List.map_inj_right fun _ _ => FileName.bytes_injective).1 same
  exact differ (location_eq.trans otherLocation_eq.symm)

/-- A walk that visits anything starts at a file, or goes through a directory. -/
theorem walk_cases (disk : Disk) (path : Path) :
    walk disk path = [] ∨
    (∃ content, disk.read path = .ok content ∧ walk disk path = [{ path, content }]) ∨
    ∃ location, disk.locate path = .ok location ∧
      walk disk path = visitsBelow disk { path, location } := by
  unfold walk
  split
  · exact .inl rfl
  · cases found : disk.locate path with
    | error reason => exact .inl rfl
    | ok location =>
      cases entry : disk.entry? location with
      | none => exact .inl (by simp [entry])
      | some standing =>
        cases standing with
        | file content =>
          exact .inr (.inl ⟨content, Disk.read_eq_ok_iff.2 ⟨location, found, entry⟩,
            by simp [entry]⟩)
        | directory => exact .inr (.inr ⟨location, rfl, by simp [entry]⟩)

variable {path : Path} {visit : Visit}

/-- A walk visits files that can be read. -/
theorem read_of_mem_walk (tree : disk.IsTree) (visited : visit ∈ walk disk path) :
    disk.read visit.path = .ok visit.content := by
  rcases walk_cases disk path with nothing | ⟨content, readable, single⟩ | ⟨location, found, below⟩
  · rw [nothing] at visited
    cases visited
  · rw [single, List.mem_singleton] at visited
    rw [visited]
    exact readable
  · rw [below] at visited
    exact read_of_mem_visitsBelow tree found visited

theorem ne_nil_of_isAbsolute (absolute : path.isAbsolute = true) : path ≠ [] := by
  rintro rfl
  cases absolute

theorem isAbsolute_of_mem_walk (absolute : path.isAbsolute = true)
    (visited : visit ∈ walk disk path) : visit.path.isAbsolute = true := by
  rcases walk_cases disk path with nothing | ⟨content, -, single⟩ | ⟨location, -, below⟩
  · rw [nothing] at visited
    cases visited
  · rw [single, List.mem_singleton] at visited
    rw [visited]
    exact absolute
  · rw [below] at visited
    obtain ⟨entry, -, isVisit⟩ := List.mem_filterMap.1 visited
    obtain ⟨names, -, -, -, path_eq⟩ := exists_names_of_visit? isVisit
    rw [path_eq, Root.isAbsolute_pathOf (ne_nil_of_isAbsolute absolute)]
    exact absolute

/-- A walk visits no file twice. -/
theorem pairwise_walk (disk : Disk) (absolute : path.isAbsolute = true) :
    (walk disk path).Pairwise fun visit other =>
      visit.path.components ≠ other.path.components := by
  rcases walk_cases disk path with nothing | ⟨content, -, single⟩ | ⟨location, -, below⟩
  · rw [nothing]
    exact .nil
  · rw [single]
    exact List.pairwise_singleton _ _
  · rw [below]
    exact pairwise_visitsBelow (ne_nil_of_isAbsolute absolute)

end GotoDefinition.Ignore
