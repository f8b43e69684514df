import GotoDefinition.Proofs.Index.Workspace

/-!
# Closing documents of a scanned workspace

Two ways lead a file into the index: a scan of the workspace, which passes over files that are
ignored or too large, and closing its document, which reads the file whatever it is.  So closing
a document restores what a scan had found only where the two decide alike
(`closing_keeps_search_iff`).
-/

namespace GotoDefinition

open Ignore (Visit walk)

/-! ## Drives -/

/-- Whether the last name of a path ends like a drive: in a letter and a colon or a bar. -/
def Path.endsLikeDrive (path : Path) : Bool :=
  match path.components.getLast?.map List.reverse with
  | some (mark :: letter :: _) => Uri.isLetterByte letter && (mark == 0x3A || mark == 0x7C)
  | _ => false

theorem Uri.closeDrive_ofNames {path : Path} (notRoot : path.components ≠ []) :
    closeDrive (Path.ofNames path.components) =
      if path.endsLikeDrive then Path.ofNames path.components ++ [Path.slash]
      else Path.ofNames path.components := by
  have components_eq := (List.dropLast_concat_getLast notRoot).symm
  generalize path.components.dropLast = names at components_eq
  generalize path.components.getLast notRoot = name at components_eq
  have nonempty : name ≠ [] :=
    (Path.isComponent_of_mem_components (components_eq ▸ List.mem_concat_self)).nonempty
  have reverse_eq : (Path.ofNames path.components).reverse =
      name.reverse ++ Path.slash :: (Path.ofNames names).reverse := by
    simp [components_eq, Path.ofNames]
  have last_eq : path.components.getLast?.map List.reverse = some name.reverse := by
    simp [components_eq]
  unfold closeDrive Path.endsLikeDrive
  rw [reverse_eq, last_eq]
  cases reversed : name.reverse with
  | nil => exact absurd (List.reverse_eq_nil_iff.1 reversed) nonempty
  | cons mark letters =>
    cases letters with
    -- In front of a single byte stands the slash, which is no letter.
    | nil => cases (Path.ofNames names).reverse <;> rfl
    | cons letter letters => cases letters <;> rfl

/-! ## What closing reads -/

variable {disk : Disk} {path root : Path} {bytes : Bytes} {uri : Uri} {maxFileSize : Nat}

namespace Index

theorem readEvent?_of_read (readable : disk.read path = .ok bytes)
    (isUri : Uri.ofFilePath? path = some uri) :
    readEvent? disk path = (Text.ofUtf8? bytes).map (IndexEvent.read uri) := by
  simp only [readEvent?, readable, isUri]
  cases Text.ofUtf8? bytes <;> rfl

/-- The file of a closed document is read, unless its URI leads back with a slash too many. -/
theorem closeEvents_of_read (readable : disk.read path = .ok bytes)
    (isUri : Uri.ofFilePath? path = some uri) :
    closeEvents disk uri = .closed uri ::
      if path.endsLikeDrive then []
      else ((Text.ofUtf8? bytes).map (IndexEvent.read uri)).toList := by
  have absolute := Uri.isAbsolute_of_ofFilePath? isUri
  have notRoot := Disk.components_ne_nil_of_read absolute readable
  have byNames := Disk.read_ofNames absolute readable
  have namesAbsolute : (Path.ofNames path.components).isAbsolute = true := by
    obtain ⟨name, names, components_eq⟩ := List.exists_cons_of_ne_nil notRoot
    rw [components_eq]
    rfl
  rw [closeEvents, Uri.toFilePath?_of_names isUri notRoot, Uri.closeDrive_ofNames notRoot]
  cases path.endsLikeDrive with
  | true => simp [Disk.not_isFile_concat_slash namesAbsolute byNames]
  | false =>
    have sameComponents : (Path.ofNames path.components).components = path.components :=
      Path.components_ofNames fun name member => Path.isComponent_of_mem_components member
    have namesUri : Uri.ofFilePath? (Path.ofNames path.components) = some uri := by
      rw [← isUri]
      exact Uri.ofFilePath?_congr namesAbsolute absolute sameComponents
    simp [Disk.isFile_of_read byNames, readEvent?_of_read byNames namesUri]

theorem agreeAt_replay_of_ne (index : Index) {history : List IndexEvent}
    (elsewhere : ∀ event ∈ history, event.uri ≠ uri) :
    AgreeAt uri (index.replay history) index := by
  induction history generalizing index with
  | nil => exact ⟨rfl, rfl⟩
  | cons event history ih =>
    obtain ⟨first, others⟩ := List.forall_mem_cons.1 elsewhere
    exact (ih _ others).trans (agreeAt_apply_of_ne index first)

/-- The index after a document was edited and closed. -/
def editAndClose (index : Index) (disk : Disk) (uri : Uri) (texts : List Text) : Index :=
  (texts.foldl (fun index content => index.update uri content) index).close disk uri

theorem editAndClose_eq_replay (index : Index) (disk : Disk) (uri : Uri) (texts : List Text) :
    index.editAndClose disk uri texts =
      index.replay (texts.map (IndexEvent.updated uri) ++ closeEvents disk uri) := by
  have edits : texts.foldl (fun index content => index.update uri content) index =
      index.replay (texts.map (IndexEvent.updated uri)) := by
    rw [replay, List.foldl_map]
    rfl
  rw [editAndClose, close_eq_replay, replay_append, edits]

theorem get?_editAndClose_of_ne (readable : disk.read path = .ok bytes)
    (isUri : Uri.ofFilePath? path = some uri) (index : Index) (texts : List Text) {other : Uri}
    (differ : other ≠ uri) :
    (index.editAndClose disk uri texts).symbols.get? other = index.symbols.get? other := by
  rw [editAndClose_eq_replay, closeEvents_of_read readable isUri]
  -- Editing and closing are about one URI, and so is the read behind them.
  refine (agreeAt_replay_of_ne index ?_).get?_eq
  intro event member
  suffices aboutUri : event.uri = uri from fun same => differ (same.symm.trans aboutUri)
  rcases List.mem_append.1 member with isUpdate | isClose
  · obtain ⟨content, -, rfl⟩ := List.mem_map.1 isUpdate
    rfl
  · rcases List.mem_cons.1 isClose with rfl | isRead
    · rfl
    · split at isRead
      · cases isRead
      · obtain ⟨content, -, rfl⟩ : ∃ content, Text.ofUtf8? bytes = some content ∧
            IndexEvent.read uri content = event := by simpa using isRead
        rfl

/-- Whatever was written into a document, what is left of it is its file. -/
theorem get?_editAndClose_self (readable : disk.read path = .ok bytes)
    (isUri : Uri.ofFilePath? path = some uri) (index : Index) (texts : List Text) :
    (index.editAndClose disk uri texts).symbols.get? uri =
      if path.endsLikeDrive then none
      else (Text.ofUtf8? bytes).map fun content => content.symbols uri := by
  rw [editAndClose_eq_replay, replay_append, closeEvents_of_read readable isUri, replay_cons]
  generalize index.replay _ = edited
  have notOpen : (edited.apply (.closed uri)).isOpen uri = false := by simp [isOpen_apply]
  have noEntry : (edited.apply (.closed uri)).symbols.get? uri = none := by simp [get?_apply]
  cases path.endsLikeDrive with
  | true => exact noEntry
  | false =>
    cases Text.ofUtf8? bytes with
    | none => exact noEntry
    | some content =>
      change ((edited.apply (.closed uri)).apply (.read uri content)).symbols.get? uri = _
      simp [get?_apply (edited.apply (.closed uri)), notOpen]

end Index

/-! ## What a scan reads -/

/-- A scan comes to the file of a URI: a walk visits it and it is not too large. -/
def Scans (disk : Disk) (root : Path) (maxFileSize : Nat) (uri : Uri) : Prop :=
  ∃ visit ∈ walk disk root, visit.content.length ≤ maxFileSize ∧
    Uri.ofFilePath? visit.path = some uri

instance : Decidable (Scans disk root maxFileSize uri) :=
  inferInstanceAs (Decidable (∃ visit ∈ walk disk root, _))

/-- A visited file with the URI of a path has the content that the path leads to. -/
theorem Visited.content_eq {visits : List Visit} {visit : Visit} (visited : Visited disk visits)
    (member : visit ∈ visits) (named : Uri.ofFilePath? visit.path = some uri)
    (readable : disk.read path = .ok bytes) (isUri : Uri.ofFilePath? path = some uri) :
    visit.content = bytes := by
  have visitRead := Disk.read_ofNames (Uri.isAbsolute_of_ofFilePath? named)
    (visited.readable visit member)
  rw [Uri.components_of_ofFilePath? named isUri,
    Disk.read_ofNames (Uri.isAbsolute_of_ofFilePath? isUri) readable] at visitRead
  exact (Except.ok.inj visitRead).symm

theorem Index.get?_indexWorkspace (tree : disk.IsTree) (absolute : root.isAbsolute = true)
    (readable : disk.read path = .ok bytes) (isUri : Uri.ofFilePath? path = some uri) :
    (({} : Index).indexWorkspace disk root maxFileSize).1.symbols.get? uri =
      if Scans disk root maxFileSize uri then
        (Text.ofUtf8? bytes).map fun content => content.symbols uri
      else none := by
  have visited := visited_walk tree absolute
  have scanned : Scanned maxFileSize (walk disk root) {}
      (({} : Index).indexWorkspace disk root maxFileSize).1 :=
    (scanned_foldl maxFileSize visited ({}, 0)).1
  split
  next scans =>
    obtain ⟨visit, member, small, named⟩ := scans
    -- The path of the visit may be another one, but it leads to the same file.
    have content_eq := visited.content_eq member named readable isUri
    cases isText : Text.ofUtf8? bytes with
    | some content =>
      rw [← content_eq] at isText
      exact scanned.get?_of_indexed visit member uri content small isText named List.not_mem_nil
    | none =>
      refine scanned.get?_of_other uri ?_
      intro other isOther isIndexable otherNamed
      obtain ⟨-, content, otherText⟩ := Visit.isIndexable_eq_true_iff.1 isIndexable
      rw [visited.content_eq isOther otherNamed readable isUri, isText] at otherText
      cases otherText
  next unscanned =>
    refine scanned.get?_of_other uri ?_
    intro visit member isIndexable named
    obtain ⟨small, -⟩ := Visit.isIndexable_eq_true_iff.1 isIndexable
    exact absurd ⟨visit, member, small, named⟩ unscanned

/-! ## One entry of a table -/

namespace UriTable

variable {α : Type}

/-- Where the row of a URI belongs does not depend on its value. -/
theorem exists_insertRow_eq {rows : List (Uri × α)} (absent : rows.lookup uri = none) :
    ∃ front back, rows = front ++ back ∧
      ∀ value, insertRow uri value rows = front ++ (uri, value) :: back := by
  induction rows with
  | nil => exact ⟨[], [], rfl, fun _ => rfl⟩
  | cons row rest ih =>
    obtain ⟨key, keyValue⟩ := row
    have differ : uri ≠ key := by
      rintro rfl
      simp at absent
    by_cases before : uri.precedes key
    · exact ⟨[], (key, keyValue) :: rest, rfl, fun _ => if_pos before⟩
    · rw [List.lookup_cons, beq_false_of_ne differ] at absent
      obtain ⟨front, back, rows_eq, inserted⟩ := ih absent
      refine ⟨(key, keyValue) :: front, back, by rw [rows_eq, List.cons_append], ?_⟩
      intro value
      rw [insertRow, if_neg before, if_neg differ, inserted, List.cons_append]

/-- Tables that differ in one URI only have the same values on both sides of it. -/
theorem exists_values_eq (table : UriTable α) (uri : Uri) :
    ∃ front back, ∀ other : UriTable α, (∀ v, v ≠ uri → other.get? v = table.get? v) →
      other.values = front ++ ((other.get? uri).toList ++ back) := by
  obtain ⟨front, back, rows_eq, inserted⟩ := exists_insertRow_eq (table.get?_erase_self uri)
  refine ⟨front.map Prod.snd, back.map Prod.snd, ?_⟩
  intro other elsewhere
  cases entry : other.get? uri with
  | none =>
    have other_eq : other = table.erase uri := by
      refine ext_get? fun v => ?_
      rw [get?_erase]
      split
      next same => rw [same, entry]
      next differ => exact elsewhere v differ
    simp [values, other_eq, rows_eq]
  | some value =>
    have other_eq : other = (table.erase uri).insert uri value := by
      refine ext_get? fun v => ?_
      by_cases same : v = uri
      · rw [same, entry, get?_insert_self]
      · rw [get?_insert_of_ne _ _ same, get?_erase_of_ne _ same, elsewhere v same]
    simp [values, other_eq, insert, inserted]

end UriTable

theorem Index.search_eq_iff {index other : Index}
    (elsewhere : ∀ v, v ≠ uri → other.symbols.get? v = index.symbols.get? v) :
    (∀ query, other.search query = index.search query) ↔
      (other.symbols.get? uri).getD [] = (index.symbols.get? uri).getD [] := by
  obtain ⟨front, back, values_eq⟩ := index.symbols.exists_values_eq uri
  have flatten_toList (entry : Option (List Symbol)) : entry.toList.flatten = entry.getD [] := by
    cases entry <;> simp
  have sameSymbols : other.allSymbols = index.allSymbols ↔
      (other.symbols.get? uri).getD [] = (index.symbols.get? uri).getD [] := by
    simp [allSymbols, values_eq _ elsewhere, values_eq index.symbols fun _ _ => rfl, flatten_toList]
  rw [← sameSymbols]
  constructor
  · intro same
    rw [← search_nil, ← search_nil, same]
  · intro same query
    rw [search, search, same]

/-! ## Closing after a scan -/

theorem Text.symbols_eq_nil_iff (content : Text) (uri : Uri) :
    content.symbols uri = [] ↔ content.declarations = [] := by
  constructor
  · intro noSymbols
    by_contra declares
    obtain ⟨symbol, member⟩ := exists_mem_symbols declares uri
    rw [noSymbols] at member
    cases member
  · intro noDeclarations
    rw [symbols, noDeclarations]
    rfl

/-- Editing and closing the document of a file leaves of it what closing reads from the disk,
whatever was written, and no other entry changes.  The search results are as after the scan
exactly if the file declares nothing, or the scan came to it and closing does, or neither. -/
theorem closing_keeps_search_iff (maxFileSize : Nat) (tree : disk.IsTree)
    (absolute : root.isAbsolute = true) (readable : disk.read path = .ok bytes)
    (isUri : Uri.ofFilePath? path = some uri) (texts : List Text) :
    let scan := (({} : Index).indexWorkspace disk root maxFileSize).1
    let closed := scan.editAndClose disk uri texts
    (∀ other, other ≠ uri → closed.symbols.get? other = scan.symbols.get? other) ∧
      closed.symbols.get? uri = (if path.endsLikeDrive then none
        else (Text.ofUtf8? bytes).map fun content => content.symbols uri) ∧
      ((∀ query, closed.search query = scan.search query) ↔
        (∀ content, Text.ofUtf8? bytes = some content → content.declarations = []) ∨
          (Scans disk root maxFileSize uri ↔ path.endsLikeDrive = false)) := by
  intro scan closed
  have elsewhere : ∀ other, other ≠ uri → closed.symbols.get? other = scan.symbols.get? other :=
    fun other => Index.get?_editAndClose_of_ne readable isUri scan texts
  have closedEntry := Index.get?_editAndClose_self readable isUri scan texts
  refine ⟨elsewhere, closedEntry, ?_⟩
  rw [Index.search_eq_iff elsewhere, closedEntry,
    Index.get?_indexWorkspace tree absolute readable isUri]
  -- Each side has the symbols of the file or nothing.
  cases Text.ofUtf8? bytes with
  | none => simp
  | some content =>
    by_cases scans : Scans disk root maxFileSize uri <;>
      cases path.endsLikeDrive <;> simp [scans, Text.symbols_eq_nil_iff]

/-- A file as large as a scan allows, edited twice, beside one that is larger. -/
theorem closing_keeps_search_of_scanned_file :
    let disk := [("/w/a.rs", "fn a"), ("/w/b.rs", "fn bb")].foldl
      (fun disk file => disk.write (Path.ofString file.1) (.file (Path.ofString file.2)))
      ({} : Disk)
    let root := Path.ofString "/w"
    let path := Path.ofString "/w//./a.rs"
    let uri : Uri := ⟨"file:///w/a.rs".toList⟩
    let scan := (({} : Index).indexWorkspace disk root 4).1
    let texts := ["fn one".toList, "fn two".toList]
    disk.IsTree ∧ root.isAbsolute = true ∧ disk.read path = .ok (Path.ofString "fn a") ∧
      Uri.ofFilePath? path = some uri ∧ (scan.search []).map Symbol.name = ["a".toList] ∧
      ∀ query, (scan.editAndClose disk uri texts).search query = scan.search query := by
  intro disk root path uri scan texts
  have tree : disk.IsTree := by decide +kernel
  have absolute : root.isAbsolute = true := by decide +kernel
  have readable : disk.read path = .ok (Path.ofString "fn a") := by decide +kernel
  have isUri : Uri.ofFilePath? path = some uri := by decide +kernel
  have alike : Scans disk root 4 uri ↔ path.endsLikeDrive = false := by decide +kernel
  exact ⟨tree, absolute, readable, isUri, by decide +kernel,
    (closing_keeps_search_iff 4 tree absolute readable isUri texts).2.2.2 (.inr alike)⟩

/-- Closing brings in a file that is too large and one that is ignored, and it loses one whose
name ends like a drive. -/
theorem closing_changes_search :
    let disk := [("/w/big.rs", "fn big"), ("/w/out.rs", "fn o"), ("/w/c:", "fn c"),
        ("/w/.ignore", "out.rs")].foldl
      (fun disk file => disk.write (Path.ofString file.1) (.file (Path.ofString file.2)))
      ({} : Disk)
    let root := Path.ofString "/w"
    let scan := (({} : Index).indexWorkspace disk root 4).1
    let closed (file : String) := (Uri.ofFilePath? (root.join (Path.ofString file))).map
      fun uri => ((scan.editAndClose disk uri ["fn edit".toList]).search []).map Symbol.name
    disk.IsTree ∧ root.isAbsolute = true ∧
      (∀ file ∈ ["big.rs", "out.rs", "c:"], disk.isFile (root.join (Path.ofString file))) ∧
      (scan.search []).map Symbol.name = ["c".toList] ∧
      closed "big.rs" = some ["big".toList, "c".toList] ∧
      closed "out.rs" = some ["c".toList, "o".toList] ∧ closed "c:" = some [] := by
  decide +kernel

end GotoDefinition
