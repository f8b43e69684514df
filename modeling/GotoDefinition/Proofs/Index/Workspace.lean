import GotoDefinition.Proofs.Ignore.Walk
import GotoDefinition.Proofs.Index.Order

/-!
# Scanning a workspace

A scan goes through the files that a walk visits, and each file of a walk has a URI of its own.
So what a scan leaves behind can be said file by file, without an order (`Scanned`), and this
leaves no choice: there is one index that is a scan of another.  That is why neither the order
of the walk nor a second scan makes a difference.
-/

namespace GotoDefinition

open Ignore (Visit walk)

/-- Whether a scan indexes a visited file: one that is a text and not too large. -/
def Ignore.Visit.isIndexable (maxFileSize : Nat) (visit : Visit) : Bool :=
  visit.content.length ≤ maxFileSize && (Text.ofUtf8? visit.content).isSome

/-- Files that can be read, each with a URI of its own. -/
structure Visited (disk : Disk) (visits : List Visit) : Prop where
  readable : ∀ visit ∈ visits, disk.read visit.path = .ok visit.content
  named : ∀ visit ∈ visits, ∃ uri, Uri.ofFilePath? visit.path = some uri
  once : visits.Pairwise fun visit other =>
    Uri.ofFilePath? visit.path ≠ Uri.ofFilePath? other.path

/-- What a scan of some files makes of an index.  A file that is a text, not too large and not
open has the symbols of its content; all else is as it was. -/
structure Scanned (maxFileSize : Nat) (visits : List Visit) (before after : Index) : Prop where
  openDocuments_eq : after.openDocuments = before.openDocuments
  get?_of_indexed : ∀ visit ∈ visits, ∀ uri content, visit.content.length ≤ maxFileSize →
    Text.ofUtf8? visit.content = some content → Uri.ofFilePath? visit.path = some uri →
    uri ∉ before.openDocuments → after.symbols.get? uri = some (content.symbols uri)
  get?_of_other : ∀ uri,
    (∀ visit ∈ visits, visit.isIndexable maxFileSize = true →
      Uri.ofFilePath? visit.path = some uri → uri ∈ before.openDocuments) →
    after.symbols.get? uri = before.symbols.get? uri

variable {disk : Disk} {maxFileSize : Nat} {visits : List Visit} {visit : Visit}
  {before after : Index}

/-! ## The files of a walk -/

/-- Two files with one URI are spelled with the same components. -/
theorem Uri.components_of_ofFilePath? {path other : Path} {uri : Uri}
    (isUri : ofFilePath? path = some uri) (isOther : ofFilePath? other = some uri) :
    path.components = other.components := by
  obtain ⟨back, back_eq, components_eq⟩ := toFilePath?_of_ofFilePath? isUri
  obtain ⟨otherBack, otherBack_eq, otherComponents_eq⟩ := toFilePath?_of_ofFilePath? isOther
  obtain rfl : back = otherBack := Option.some.inj (back_eq.symm.trans otherBack_eq)
  exact components_eq.symm.trans otherComponents_eq

theorem Uri.exists_ofFilePath? {path : Path} (absolute : path.isAbsolute = true) :
    ∃ uri, ofFilePath? path = some uri :=
  ⟨_, if_pos absolute⟩

theorem visited_walk (tree : disk.IsTree) {root : Path} (absolute : root.isAbsolute = true) :
    Visited disk (walk disk root) where
  readable _ visited := Ignore.read_of_mem_walk tree visited
  named _ visited := Uri.exists_ofFilePath? (Ignore.isAbsolute_of_mem_walk absolute visited)
  once := by
    refine (Ignore.pairwise_walk disk absolute).imp_of_mem ?_
    intro visit other visited otherVisited apart same
    obtain ⟨uri, isUri⟩ :=
      Uri.exists_ofFilePath? (Ignore.isAbsolute_of_mem_walk absolute visited)
    exact apart (Uri.components_of_ofFilePath? isUri (same ▸ isUri))

theorem Visited.perm {order : List Visit} (visited : Visited disk visits)
    (perm : order.Perm visits) : Visited disk order where
  readable visit member := visited.readable visit (perm.mem_iff.1 member)
  named visit member := visited.named visit (perm.mem_iff.1 member)
  once := visited.once.perm perm.symm fun apart same => apart same.symm

/-! ## One file after the other -/

theorem Ignore.Visit.isIndexable_eq_true_iff :
    visit.isIndexable maxFileSize = true ↔
      visit.content.length ≤ maxFileSize ∧
        ∃ content, Text.ofUtf8? visit.content = some content := by
  simp [isIndexable, Option.isSome_iff_exists]

theorem Index.indexVisit_of_skipped (readable : disk.read visit.path = .ok visit.content)
    (skipped : visit.isIndexable maxFileSize = false) (state : Index × Nat) :
    indexVisit disk maxFileSize state visit = state := by
  obtain ⟨index, count⟩ := state
  simp only [indexVisit]
  split
  · rfl
  next small =>
    have notText : Text.ofUtf8? visit.content = none := by
      simpa [Visit.isIndexable, Nat.not_lt.1 small] using skipped
    rw [indexFile_of_notText index readable notText]

theorem Index.indexVisit_of_text {uri : Uri} {content : Text}
    (readable : disk.read visit.path = .ok visit.content)
    (named : Uri.ofFilePath? visit.path = some uri)
    (isText : Text.ofUtf8? visit.content = some content)
    (small : visit.content.length ≤ maxFileSize) (state : Index × Nat) :
    indexVisit disk maxFileSize state visit =
      (state.1.commit { uri, symbols := content.symbols uri }, state.2 + 1) := by
  obtain ⟨index, count⟩ := state
  simp [indexVisit, Nat.not_lt.2 small, indexFile, scanFile, readable, scanBytes, isText, named]

theorem Scanned.nil (maxFileSize : Nat) (index : Index) : Scanned maxFileSize [] index index where
  openDocuments_eq := rfl
  get?_of_indexed _ member := absurd member List.not_mem_nil
  get?_of_other _ _ := rfl

theorem Scanned.skip (scanned : Scanned maxFileSize visits before after)
    (skipped : visit.isIndexable maxFileSize = false) :
    Scanned maxFileSize (visit :: visits) before after where
  openDocuments_eq := scanned.openDocuments_eq
  get?_of_indexed := by
    intro other member uri content small isText
    rcases List.mem_cons.1 member with rfl | member
    · have indexable := Visit.isIndexable_eq_true_iff.2 ⟨small, content, isText⟩
      rw [skipped] at indexable
      cases indexable
    · exact scanned.get?_of_indexed other member uri content small isText
  get?_of_other := by
    intro uri owned
    exact scanned.get?_of_other uri (List.forall_mem_cons.1 owned).2

theorem Index.openDocuments_commit (index : Index) (scan : Scan) :
    (index.commit scan).openDocuments = index.openDocuments := by
  unfold commit
  split <;> rfl

theorem Index.get?_commit (index : Index) (uri other : Uri) (content : Text) :
    (index.commit { uri, symbols := content.symbols uri }).symbols.get? other =
      if uri = other ∧ other ∉ index.openDocuments then some (content.symbols other)
      else index.symbols.get? other := by
  have applied := get?_apply index (.read uri content) other
  simpa [apply, ← isOpen_iff] using applied

/-- The next files leave alone what was put in, since they have other URIs. -/
theorem Scanned.commit {uri : Uri} {content : Text}
    (scanned : Scanned maxFileSize visits
      (before.commit { uri, symbols := content.symbols uri }) after)
    (isText : Text.ofUtf8? visit.content = some content)
    (small : visit.content.length ≤ maxFileSize)
    (named : Uri.ofFilePath? visit.path = some uri)
    (apart : ∀ other ∈ visits, Uri.ofFilePath? other.path ≠ some uri) :
    Scanned maxFileSize (visit :: visits) before after where
  openDocuments_eq := by
    rw [scanned.openDocuments_eq, Index.openDocuments_commit]
  get?_of_indexed := by
    intro other member otherUri otherContent otherSmall otherText otherNamed notOpen
    rcases List.mem_cons.1 member with rfl | member
    · obtain rfl : uri = otherUri := Option.some.inj (named.symm.trans otherNamed)
      obtain rfl : content = otherContent := Option.some.inj (isText.symm.trans otherText)
      rw [scanned.get?_of_other uri fun later isLater _ same => absurd same (apart later isLater),
        Index.get?_commit, if_pos ⟨rfl, notOpen⟩]
    · refine scanned.get?_of_indexed other member otherUri otherContent otherSmall otherText
        otherNamed ?_
      rwa [Index.openDocuments_commit]
  get?_of_other := by
    intro other owned
    obtain ⟨here, later⟩ := List.forall_mem_cons.1 owned
    have indexable := Visit.isIndexable_eq_true_iff.2 ⟨small, content, isText⟩
    have notPutIn : ¬ (uri = other ∧ other ∉ before.openDocuments) := by
      rintro ⟨rfl, notOpen⟩
      exact notOpen (here indexable named)
    rw [scanned.get?_of_other other (by rwa [Index.openDocuments_commit]), Index.get?_commit,
      if_neg notPutIn]

/-- What a scan of some files does, and how many of them it counts. -/
theorem scanned_foldl (maxFileSize : Nat) (visited : Visited disk visits) (state : Index × Nat) :
    Scanned maxFileSize visits state.1
        (visits.foldl (Index.indexVisit disk maxFileSize) state).1 ∧
      (visits.foldl (Index.indexVisit disk maxFileSize) state).2 =
        state.2 + (visits.filter (Visit.isIndexable maxFileSize)).length := by
  induction visits generalizing state with
  | nil => exact ⟨.nil maxFileSize state.1, rfl⟩
  | cons visit visits ih =>
    obtain ⟨readable, readableLater⟩ := List.forall_mem_cons.1 visited.readable
    obtain ⟨⟨uri, named⟩, namedLater⟩ := List.forall_mem_cons.1 visited.named
    obtain ⟨apart, once⟩ := List.pairwise_cons.1 visited.once
    have later := ih ⟨readableLater, namedLater, once⟩
    rw [List.foldl_cons]
    cases isIndexable : visit.isIndexable maxFileSize with
    | false =>
      rw [Index.indexVisit_of_skipped readable isIndexable,
        List.filter_cons_of_neg (by simp [isIndexable])]
      exact ⟨(later state).1.skip isIndexable, (later state).2⟩
    | true =>
      obtain ⟨small, content, isText⟩ := Visit.isIndexable_eq_true_iff.1 isIndexable
      rw [Index.indexVisit_of_text readable named isText small,
        List.filter_cons_of_pos isIndexable]
      obtain ⟨scanned, count_eq⟩ :=
        later (state.1.commit { uri, symbols := content.symbols uri }, state.2 + 1)
      refine ⟨scanned.commit isText small named ?_, ?_⟩
      · intro other isOther same
        exact apart other isOther (named.trans same.symm)
      · rw [count_eq, List.length_cons]
        omega

/-! ## Whole scans -/

theorem Scanned.congr {others : List Visit} (scanned : Scanned maxFileSize visits before after)
    (same : ∀ visit, visit ∈ others ↔ visit ∈ visits) :
    Scanned maxFileSize others before after where
  openDocuments_eq := scanned.openDocuments_eq
  get?_of_indexed visit member := scanned.get?_of_indexed visit ((same visit).1 member)
  get?_of_other uri owned :=
    scanned.get?_of_other uri fun visit member => owned visit ((same visit).2 member)

/-- An index that was scanned is a scan of itself. -/
theorem Scanned.again (scanned : Scanned maxFileSize visits before after) :
    Scanned maxFileSize visits after after where
  openDocuments_eq := rfl
  get?_of_indexed := by
    rw [scanned.openDocuments_eq]
    exact scanned.get?_of_indexed
  get?_of_other _ _ := rfl

theorem Scanned.unique {other : Index} (scanned : Scanned maxFileSize visits before after)
    (otherScanned : Scanned maxFileSize visits before other) : other = after := by
  have same : ∀ uri, other.symbols.get? uri = after.symbols.get? uri := by
    intro uri
    by_cases indexed : ∃ visit ∈ visits, visit.isIndexable maxFileSize = true ∧
        Uri.ofFilePath? visit.path = some uri ∧ uri ∉ before.openDocuments
    · obtain ⟨visit, member, isIndexable, named, notOpen⟩ := indexed
      obtain ⟨small, content, isText⟩ := Visit.isIndexable_eq_true_iff.1 isIndexable
      rw [scanned.get?_of_indexed visit member uri content small isText named notOpen,
        otherScanned.get?_of_indexed visit member uri content small isText named notOpen]
    · have owned : ∀ visit ∈ visits, visit.isIndexable maxFileSize = true →
          Uri.ofFilePath? visit.path = some uri → uri ∈ before.openDocuments := by
        intro visit member isIndexable named
        by_contra notOpen
        exact indexed ⟨visit, member, isIndexable, named, notOpen⟩
      rw [scanned.get?_of_other uri owned, otherScanned.get?_of_other uri owned]
  obtain ⟨symbols, openDocuments⟩ := after
  obtain ⟨otherSymbols, otherOpenDocuments⟩ := other
  congr
  · exact UriTable.ext_get? same
  · exact otherScanned.openDocuments_eq.trans scanned.openDocuments_eq.symm

/-- A scan of a workspace indexes the files of the walk that are texts, not too large and not
open, and leaves every other entry and the open documents as they were.  It counts the texts that
are not too large, open or not.  Any order of the walk comes to the same, and a second scan finds
nothing to do. -/
theorem indexWorkspace_scans_walk (index : Index) (maxFileSize : Nat) (tree : disk.IsTree)
    {root : Path} (absolute : root.isAbsolute = true) :
    let scan := index.indexWorkspace disk root maxFileSize
    Visited disk (walk disk root) ∧
      Scanned maxFileSize (walk disk root) index scan.1 ∧
      scan.2 = ((walk disk root).filter (Visit.isIndexable maxFileSize)).length ∧
      (∀ order : List Visit, order.Perm (walk disk root) →
        order.foldl (Index.indexVisit disk maxFileSize) (index, 0) = scan) ∧
      scan.1.indexWorkspace disk root maxFileSize = scan := by
  intro scan
  have visited := visited_walk tree absolute
  obtain ⟨scanned, count_eq⟩ := scanned_foldl maxFileSize visited (index, 0)
  refine ⟨visited, scanned, ?_, ?_, ?_⟩
  · exact count_eq.trans (Nat.zero_add _)
  · intro order perm
    obtain ⟨orderScanned, orderCount_eq⟩ :=
      scanned_foldl maxFileSize (visited.perm perm) (index, 0)
    refine Prod.ext ?_ ?_
    · exact scanned.unique (orderScanned.congr fun visit => perm.symm.mem_iff)
    · rw [orderCount_eq]
      refine Eq.trans ?_ count_eq.symm
      rw [(perm.filter _).length_eq]
  · obtain ⟨again, againCount_eq⟩ :=
      scanned_foldl maxFileSize visited (scan.1, 0)
    exact Prod.ext (scanned.again.unique again) (againCount_eq.trans count_eq.symm)

/-- A file of each kind: one that is indexed, one that is open, one that is too large by a byte,
one that is no text, one that is ignored, and the entry of one that is gone. -/
theorem indexWorkspace_scans_walk_of_all_kinds :
    let disk := [("/w/a.rs", Path.ofString "fn a"), ("/w/b.rs", Path.ofString "fn b"),
      ("/w/c.rs", Path.ofString "fn cc"), ("/w/d.rs", [0xFF]), ("/w/e.rs", Path.ofString "fn e"),
      ("/w/.ignore", Path.ofString "e.rs")].foldl
        (fun disk file => disk.write (Path.ofString file.1) (.file file.2)) ({} : Disk)
    let root := Path.ofString "/w"
    let gone : Uri := ⟨"file:///w/z.rs".toList⟩
    let index := (({} : Index).update ⟨"file:///w/b.rs".toList⟩ "fn mine".toList).commit
      { uri := gone, symbols := Text.symbols "fn gone".toList gone }
    let scan := index.indexWorkspace disk root 4
    disk.IsTree ∧ root.isAbsolute = true ∧ (walk disk root).length = 4 ∧ scan.2 = 2 ∧
      (scan.1.search []).map Symbol.name = ["a".toList, "mine".toList, "gone".toList] ∧
      (walk disk root).reverse.foldl (Index.indexVisit disk 4) (index, 0) = scan ∧
      scan.1.indexWorkspace disk root 4 = scan := by
  intro disk root gone index scan
  have tree : disk.IsTree := by decide +kernel
  have absolute : root.isAbsolute = true := by decide +kernel
  obtain ⟨-, -, -, anyOrder, again⟩ := indexWorkspace_scans_walk index 4 tree absolute
  exact ⟨tree, absolute, by decide +kernel, by decide +kernel, by decide +kernel,
    anyOrder _ (List.reverse_perm _), again⟩

end GotoDefinition
