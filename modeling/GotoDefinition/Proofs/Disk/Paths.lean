import GotoDefinition.Disk.Basic
import GotoDefinition.Proofs.Uri.FilePath

/-!
# Following paths

A path is followed piece by piece (`follow_append`).  Of a path that leads to a file only the
components count (`read_ofNames`), and a slash behind such a path leads nowhere.  On a disk that
is a tree, where every entry stands in a directory, the names below a directory lead to the
entry that has them.
-/

namespace GotoDefinition

/-! ## Pieces and components -/

namespace Path

theorem pieces_append_slash (front back : Path) :
    pieces (front ++ slash :: back) = pieces front ++ pieces back := by
  fun_induction pieces front with
  | case1 => exact pieces_cons_slash back
  | case2 byte rest isSlash ih => simp [pieces, isSlash, ih]
  | case3 byte rest notSlash noPieces ih => exact absurd noPieces (pieces_ne_nil rest)
  | case4 byte rest notSlash first others pieces_eq ih => simp [pieces, notSlash, ih, pieces_eq]

end Path

namespace FileName

theorem isComponent_bytes (name : FileName) : Path.IsComponent name.bytes := by
  have valid := name.valid
  simp only [isFileName, Bool.and_eq_true, Bool.not_eq_true', List.isEmpty_eq_false_iff,
    bne_iff_ne, List.contains_eq_mem, decide_eq_false_iff_not] at valid
  exact ⟨valid.1.1.1, valid.1.1.2, valid.2⟩

theorem bytes_ne_parentName (name : FileName) : name.bytes ≠ Path.parentName := by
  have valid := name.valid
  simp only [isFileName, Bool.and_eq_true, bne_iff_ne] at valid
  exact valid.1.2

theorem ofBytes?_bytes (name : FileName) : ofBytes? name.bytes = some name := by
  simp [ofBytes?, name.valid]

theorem bytes_injective {name other : FileName} (same : name.bytes = other.bytes) :
    name = other := by
  cases name
  cases other
  cases same
  rfl

theorem pieces_bytes (name : FileName) : Path.pieces name.bytes = [name.bytes] := by
  have pieces_eq : Path.pieces (name.bytes ++ []) = [name.bytes ++ []] :=
    Path.pieces_append name.isComponent_bytes.noSlash rfl
  rwa [List.append_nil] at pieces_eq

theorem not_isAbsolute_bytes (name : FileName) : Path.isAbsolute name.bytes = false := by
  simp only [Path.isAbsolute, beq_eq_false_iff_ne, ne_eq]
  intro starts
  exact name.isComponent_bytes.noSlash (List.mem_of_mem_head? starts)

end FileName

namespace Path

variable {path : Path}

/-- What a name is joined to: the path, less a slash at its end. -/
theorem exists_join_eq (nonempty : path ≠ []) (name : FileName) :
    ∃ front, path.join name.bytes = front ++ slash :: name.bytes ∧
      (path = front ∨ path = front ++ [slash]) := by
  rw [join, name.not_isAbsolute_bytes, if_neg (by simp)]
  split
  next ends =>
    have last : path.getLast? = some slash := by simpa [nonempty] using ends
    obtain ⟨front, rfl⟩ := List.getLast?_eq_some_iff.1 last
    exact ⟨front, by simp, .inr rfl⟩
  next => exact ⟨path, rfl, .inl rfl⟩

theorem components_join (nonempty : path ≠ []) (name : FileName) :
    (path.join name.bytes).components = path.components ++ [name.bytes] := by
  have isComponent := name.isComponent_bytes
  have counts : (!name.bytes.isEmpty && name.bytes != currentName) = true := by
    simp [isComponent.nonempty, isComponent.notCurrent]
  obtain ⟨front, join_eq, path_eq⟩ := exists_join_eq nonempty name
  have same : path.components = front.components := by
    rcases path_eq with rfl | rfl
    · rfl
    · exact components_concat_slash front
  rw [join_eq, same, components, pieces_append_slash, name.pieces_bytes, List.filter_append,
    List.filter_cons_of_pos (by exact counts)]
  rfl

theorem isAbsolute_join (nonempty : path ≠ []) (name : FileName) :
    (path.join name.bytes).isAbsolute = path.isAbsolute := by
  obtain ⟨byte, rest, rfl⟩ := List.exists_cons_of_ne_nil nonempty
  rw [join, name.not_isAbsolute_bytes, if_neg (by simp)]
  split <;> rfl

theorem join_ne_nil (nonempty : path ≠ []) (name : FileName) : path.join name.bytes ≠ [] := by
  obtain ⟨front, join_eq, -⟩ := exists_join_eq nonempty name
  simp [join_eq]

end Path

/-! ## Following -/

namespace Disk

variable {disk : Disk} {location : Location}

theorem follow_append_eq_ok_iff {pieces others : List Bytes} {target : Location} :
    disk.follow location (pieces ++ others) = .ok target ↔
      ∃ middle, disk.follow location pieces = .ok middle ∧
        disk.follow middle others = .ok target := by
  fun_induction disk.follow location pieces with
  | case1 => simp
  | _ => simp_all [follow]

theorem follow_empty_eq_ok_iff {target : Location} :
    disk.follow location [[]] = .ok target ↔
      target = location ∧ disk.entry? location = some .directory := by
  cases entry : disk.entry? location with
  | none => simp [follow, entry]
  | some found => cases found <;> simp [follow, entry, eq_comm]

theorem follow_name (isDirectory : disk.entry? location = some .directory) (name : FileName) :
    disk.follow location [name.bytes] = .ok (location ++ [name]) := by
  have isComponent := name.isComponent_bytes
  simp [follow, isDirectory, isComponent.nonempty, isComponent.notCurrent,
    name.bytes_ne_parentName, name.ofBytes?_bytes]

/-- Pieces that lead nowhere may be left out. -/
theorem follow_filter {pieces : List Bytes} {target : Location}
    (found : disk.follow location pieces = .ok target) :
    disk.follow location (pieces.filter fun piece => !piece.isEmpty && piece != Path.currentName) =
      .ok target := by
  fun_induction disk.follow location pieces with
  | case1 => exact found
  | case2 | case3 | case7 => cases found
  | case4 location piece pieces isDirectory skipped ih =>
    rw [List.filter_cons_of_neg (by simpa [imp_iff_not_or] using skipped)]
    exact ih found
  | case5 location piece pieces isDirectory counts isParent ih =>
    rw [List.filter_cons_of_pos (by simpa [not_or] using counts), follow, isDirectory]
    simp only [counts, isParent, Bool.false_eq_true, if_false, if_true]
    exact ih found
  | case6 location piece pieces isDirectory counts notParent name isName ih =>
    rw [List.filter_cons_of_pos (by simpa [not_or] using counts), follow, isDirectory]
    simp only [counts, notParent, isName, Bool.false_eq_true, if_false]
    exact ih found

theorem locate_of_isAbsolute {path : Path} (absolute : path.isAbsolute = true) :
    disk.locate path = disk.follow [] path.pieces := by
  have nonempty : path ≠ [] := by
    rintro rfl
    cases absolute
  simp [locate, nonempty, absolute]

theorem locate_join {path : Path} (found : disk.locate path = .ok location)
    (isDirectory : disk.entry? location = some .directory) (name : FileName) :
    disk.locate (path.join name.bytes) = .ok (location ++ [name]) := by
  have nonempty : path ≠ [] := by
    rintro rfl
    cases found
  obtain ⟨front, join_eq, path_eq⟩ := Path.exists_join_eq nonempty name
  simp only [locate, List.isEmpty_iff, nonempty, Path.join_ne_nil nonempty name,
    Path.isAbsolute_join nonempty name, if_false] at found ⊢
  have frontFound : disk.follow (if path.isAbsolute = true then [] else disk.workingDirectory)
      front.pieces = .ok location := by
    rcases path_eq with rfl | slashed
    · exact found
    · -- The slash at the end adds an empty piece, which only asks for a directory.
      rw [slashed, Path.pieces_concat_slash, ← slashed, follow_append_eq_ok_iff] at found
      obtain ⟨middle, frontFound, onward⟩ := found
      obtain ⟨rfl, -⟩ := follow_empty_eq_ok_iff.1 onward
      exact frontFound
  rw [join_eq, Path.pieces_append_slash, follow_append_eq_ok_iff, name.pieces_bytes]
  exact ⟨location, frontFound, follow_name isDirectory name⟩

/-! ## Files -/

theorem mem_of_entry? {content : Bytes} (entry : disk.entry? location = some (.file content)) :
    (location, .file content) ∈ disk.entries := by
  unfold entry? at entry
  split at entry
  · cases entry
  · obtain ⟨earlier, later, entries_eq, -⟩ := List.lookup_eq_some_iff.1 entry
    rw [entries_eq]
    exact List.mem_append_right earlier List.mem_cons_self

theorem read_eq_ok_iff {path : Path} {content : Bytes} :
    disk.read path = .ok content ↔
      ∃ location, disk.locate path = .ok location ∧
        disk.entry? location = some (.file content) := by
  unfold read
  cases disk.locate path with
  | error reason => simp
  | ok location =>
    cases entry : disk.entry? location with
    | none => simp [entry]
    | some found => cases found <;> simp [entry]

theorem isFile_of_read {path : Path} {content : Bytes} (readable : disk.read path = .ok content) :
    disk.isFile path = true := by
  obtain ⟨location, found, entry⟩ := read_eq_ok_iff.1 readable
  simp [isFile, at?, found, entry]

theorem components_ne_nil_of_read {path : Path} {content : Bytes}
    (absolute : path.isAbsolute = true) (readable : disk.read path = .ok content) :
    path.components ≠ [] := by
  intro noNames
  obtain ⟨location, found, entry⟩ := read_eq_ok_iff.1 readable
  rw [locate_of_isAbsolute absolute] at found
  have byComponents : disk.follow [] path.components = .ok location := follow_filter found
  rw [noNames] at byComponents
  obtain rfl : [] = location := Except.ok.inj byComponents
  cases entry

/-- Of a path that leads to a file only the components count. -/
theorem read_ofNames {path : Path} {content : Bytes} (absolute : path.isAbsolute = true)
    (readable : disk.read path = .ok content) :
    disk.read (Path.ofNames path.components) = .ok content := by
  obtain ⟨name, names, components_eq⟩ :=
    List.exists_cons_of_ne_nil (components_ne_nil_of_read absolute readable)
  have namesAbsolute : (Path.ofNames path.components).isAbsolute = true := by
    rw [components_eq]
    rfl
  obtain ⟨location, found, entry⟩ := read_eq_ok_iff.1 readable
  rw [locate_of_isAbsolute absolute] at found
  refine read_eq_ok_iff.2 ⟨location, ?_, entry⟩
  rw [locate_of_isAbsolute namesAbsolute,
    Path.pieces_ofNames fun name => Path.isComponent_of_mem_components]
  exact follow_append_eq_ok_iff.2
    ⟨[], follow_empty_eq_ok_iff.2 ⟨rfl, rfl⟩, follow_filter found⟩

theorem not_isFile_concat_slash {path : Path} {content : Bytes}
    (absolute : path.isAbsolute = true) (readable : disk.read path = .ok content) :
    disk.isFile (path ++ [Path.slash]) = false := by
  obtain ⟨location, found, entry⟩ := read_eq_ok_iff.1 readable
  have slashedAbsolute : Path.isAbsolute (path ++ [Path.slash]) = true := by
    cases path with
    | nil => cases absolute
    | cons byte rest => exact absolute
  rw [locate_of_isAbsolute absolute] at found
  cases slashed : disk.locate (path ++ [Path.slash]) with
  | error reason => simp [isFile, at?, slashed]
  | ok target =>
    rw [locate_of_isAbsolute slashedAbsolute, Path.pieces_concat_slash,
      follow_append_eq_ok_iff] at slashed
    obtain ⟨middle, sameFound, onward⟩ := slashed
    obtain rfl : location = middle := Except.ok.inj (found.symm.trans sameFound)
    obtain ⟨-, isDirectory⟩ := follow_empty_eq_ok_iff.1 onward
    rw [entry] at isDirectory
    cases isDirectory

/-! ## Trees -/

/-- Every entry stands in a directory, and so do all above it. -/
def IsTree (disk : Disk) : Prop :=
  ∀ entry ∈ disk.entries, ∀ above ∈ ancestors entry.1, disk.entry? above = some .directory

instance (disk : Disk) : Decidable disk.IsTree :=
  inferInstanceAs (Decidable (∀ entry ∈ disk.entries, _))

theorem entry?_of_mem {entry : DiskEntry} (member : (location, entry) ∈ disk.entries)
    (notRoot : location ≠ []) : disk.entry? location = some entry := by
  unfold entry?
  rw [if_neg notRoot]
  have distinct := disk.distinct
  revert member distinct
  induction disk.entries with
  | nil => simp
  | cons first rest ih =>
    intro member distinct
    rw [List.map_cons, List.nodup_cons] at distinct
    rcases List.mem_cons.1 member with rfl | later
    · simp
    · have differ : location ≠ first.1 := by
        rintro rfl
        exact distinct.1 (List.mem_map.2 ⟨_, later, rfl⟩)
      rw [List.lookup_cons, beq_false_of_ne differ]
      exact ih later distinct.2

end Disk

end GotoDefinition
