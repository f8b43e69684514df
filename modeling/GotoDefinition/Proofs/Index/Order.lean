import GotoDefinition.Proofs.Index.Search
import GotoDefinition.Proofs.Text.Utf8

/-!
# The order of search results

A search lists symbols by the bytes of their URIs and then by their places, and lists none of
them twice, whatever was done to the index.  The order in which documents came in leaves no
trace: an index answers by its entries alone, and operations on different URIs may change
places (`search_ordered`).
-/

namespace GotoDefinition

/-! ## Tables -/

/-- A table is known by what it has for each URI. -/
theorem UriTable.ext_get? {α : Type} {table other : UriTable α}
    (same : ∀ uri, table.get? uri = other.get? uri) : table = other := by
  have distinct (table : UriTable α) : table.rows.Nodup := by
    refine table.sorted.imp ?_
    rintro row later before rfl
    exact Uri.ne_of_precedes before rfl
  have sameRows : table.rows.Perm other.rows := by
    refine (List.perm_ext_iff_of_nodup (distinct table) (distinct other)).2 ?_
    rintro ⟨uri, value⟩
    rw [← get?_eq_some_iff, ← get?_eq_some_iff, same]
  have rows_eq : table.rows = other.rows := by
    refine sameRows.eq_of_pairwise ?_ table.sorted other.sorted
    intro row later _ _ before after
    exact absurd rfl (Uri.ne_of_precedes (Uri.precedes_trans before after))
  cases table
  cases other
  simp_all

/-! ## Order -/

/-- A symbol is listed before another one: by the bytes of its URI, then by the line and then by
the column where it starts. -/
def Symbol.ListedBefore (symbol later : Symbol) : Prop :=
  symbol.uri.text.utf8Bytes < later.uri.text.utf8Bytes ∨
    symbol.uri.text.utf8Bytes = later.uri.text.utf8Bytes ∧
      symbol.range.start.Precedes later.range.start

theorem Position.Precedes.trans {first second third : Position} (before : first.Precedes second)
    (after : second.Precedes third) : first.Precedes third := by
  unfold Precedes at *
  omega

theorem Symbol.ListedBefore.ne {symbol later : Symbol} (before : symbol.ListedBefore later) :
    symbol ≠ later := by
  rintro rfl
  rcases before with bytes | ⟨-, line | ⟨-, column⟩⟩
  · exact List.lt_irrefl _ bytes
  · exact Nat.lt_irrefl _ line
  · exact Nat.lt_irrefl _ column

namespace Index

theorem pairwise_listedBefore (history : List IndexEvent) :
    (replay {} history).allSymbols.Pairwise Symbol.ListedBefore := by
  refine List.Pairwise.imp_of_mem ?_ (pairwise_allSymbols history)
  intro symbol later member _ precedes
  rcases precedes with before | ⟨sameUri, apart⟩
  · exact .inl (Text.utf8Bytes_lt (of_decide_eq_true before))
  · obtain ⟨content, -, isSymbol⟩ := exists_content_of_mem_allSymbols member
    obtain ⟨width, positive⟩ := Text.width_of_mem_symbols isSymbol
    have oneLine := (Text.spells_of_mem_symbols isSymbol).oneLine
    have nonempty : symbol.range.start.Precedes symbol.range.stop := .inr ⟨oneLine, by omega⟩
    exact .inr ⟨by rw [sameUri], nonempty.trans apart⟩

theorem search_sublist (index : Index) (query : Text) :
    (index.search query).Sublist index.allSymbols :=
  List.filter_sublist

end Index

/-! ## What a search depends on -/

/-- The URI that an event is about. -/
def IndexEvent.uri : IndexEvent → Uri
  | .updated uri _ => uri
  | .closed uri => uri
  | .read uri _ => uri

namespace Index

theorem search_congr {index other : Index}
    (same : ∀ uri, index.symbols.get? uri = other.symbols.get? uri) (query : Text) :
    index.search query = other.search query := by
  have sameTable : index.symbols = other.symbols := UriTable.ext_get? same
  rw [search, search, allSymbols, allSymbols, sameTable]

/-- Two indexes tell the same about a URI: whether its document is open, and its entry. -/
structure AgreeAt (uri : Uri) (index other : Index) : Prop where
  isOpen_eq : index.isOpen uri = other.isOpen uri
  get?_eq : index.symbols.get? uri = other.symbols.get? uri

section

variable {uri : Uri} {index other third : Index}

theorem AgreeAt.symm (agree : AgreeAt uri index other) : AgreeAt uri other index :=
  ⟨agree.isOpen_eq.symm, agree.get?_eq.symm⟩

theorem AgreeAt.trans (agree : AgreeAt uri index other) (further : AgreeAt uri other third) :
    AgreeAt uri index third :=
  ⟨agree.isOpen_eq.trans further.isOpen_eq, agree.get?_eq.trans further.get?_eq⟩

/-- What an event makes of a URI depends on that URI alone. -/
theorem AgreeAt.apply (agree : AgreeAt uri index other) (event : IndexEvent) :
    AgreeAt uri (index.apply event) (other.apply event) := by
  obtain ⟨sameOpen, sameEntry⟩ := agree
  constructor
  · rw [isOpen_apply, isOpen_apply, sameOpen]
  · rw [get?_apply, get?_apply, sameOpen, sameEntry]

theorem AgreeAt.replay (agree : AgreeAt uri index other) (history : List IndexEvent) :
    AgreeAt uri (index.replay history) (other.replay history) := by
  induction history generalizing index other with
  | nil => exact agree
  | cons event history ih => exact ih (agree.apply event)

theorem agreeAt_apply_of_ne (index : Index) {event : IndexEvent} (elsewhere : event.uri ≠ uri) :
    AgreeAt uri (index.apply event) index := by
  constructor
  · rw [isOpen_apply]
    cases event <;> simp_all [IndexEvent.uri]
  · rw [get?_apply]
    cases event <;> simp_all [IndexEvent.uri]

end

theorem apply_comm (index : Index) {first second : IndexEvent} (apart : first.uri ≠ second.uri)
    (uri : Uri) :
    AgreeAt uri ((index.apply first).apply second) ((index.apply second).apply first) := by
  by_cases atSecond : second.uri = uri
  · -- The first event is about another URI, and so it changes nothing in either place.
    have elsewhere : first.uri ≠ uri := fun atFirst => apart (atFirst.trans atSecond.symm)
    have ahead := (agreeAt_apply_of_ne index elsewhere).apply second
    exact ahead.trans (agreeAt_apply_of_ne _ elsewhere).symm
  · have behind := (agreeAt_apply_of_ne index atSecond).apply first
    exact (agreeAt_apply_of_ne _ atSecond).trans behind.symm

end Index

/-! ## Operations that change places -/

/-- The URI that an update or the indexing of a file is about. -/
def IndexOperation.target? : IndexOperation → Option Uri
  | .update uri _ => some uri
  | .indexFile path => Uri.ofFilePath? path
  | .close _ => none
  | .indexWorkspace _ _ => none
  | .changeDisk _ => none

theorem IndexOperation.events_of_target? {operation : IndexOperation} {uri : Uri}
    (isTarget : operation.target? = some uri) (disk : Disk) :
    operation.diskAfter disk = disk ∧ ∃ event? : Option IndexEvent,
      operation.events disk = event?.toList ∧ ∀ event ∈ event?, event.uri = uri := by
  cases operation with
  | update other content =>
    obtain rfl := Option.some.inj isTarget
    exact ⟨rfl, some (.updated other content), rfl, by simp [IndexEvent.uri]⟩
  | indexFile path =>
    refine ⟨rfl, Index.readEvent? disk path, rfl, ?_⟩
    intro event wasRead
    unfold Index.readEvent? at wasRead
    split at wasRead
    · cases wasRead
    · change Uri.ofFilePath? path = some uri at isTarget
      rw [isTarget] at wasRead
      obtain ⟨content, -, read_eq⟩ := Option.bind_eq_some_iff.1 wasRead
      obtain rfl := Option.some.inj read_eq
      rfl
  | close | indexWorkspace | changeDisk => cases isTarget

namespace IndexState

open IndexOperation (events_of_target?)

variable {first second : IndexOperation} {u v : Uri} (firstAt : first.target? = some u)
  (secondAt : second.target? = some v) (apart : u ≠ v)

include firstAt secondAt apart

theorem step_comm (state : IndexState) :
    ((state.step first).step second).disk = ((state.step second).step first).disk ∧
      ∀ uri, Index.AgreeAt uri ((state.step first).step second).index
        ((state.step second).step first).index := by
  obtain ⟨disk, index⟩ := state
  obtain ⟨sameDisk, firstEvent?, firstEvents, aboutFirst⟩ := events_of_target? firstAt disk
  obtain ⟨stillDisk, secondEvent?, secondEvents, aboutSecond⟩ := events_of_target? secondAt disk
  simp only [step_eq, sameDisk, stillDisk, firstEvents, secondEvents, true_and]
  intro uri
  cases firstEvent? with
  | none => exact ⟨rfl, rfl⟩
  | some event =>
    cases secondEvent? with
    | none => exact ⟨rfl, rfl⟩
    | some other =>
      obtain rfl := aboutFirst event rfl
      obtain rfl := aboutSecond other rfl
      exact Index.apply_comm index apart uri

/-- Wherever in a sequence the two operations stand. -/
theorem run_comm (state : IndexState) (earlier later : List IndexOperation) (uri : Uri) :
    Index.AgreeAt uri (state.run (earlier ++ first :: second :: later)).index
      (state.run (earlier ++ second :: first :: later)).index := by
  obtain ⟨sameDisk, agree⟩ := step_comm firstAt secondAt apart (state.run earlier)
  have split (operations : List IndexOperation) :
      state.run (earlier ++ operations) = (state.run earlier).run operations := List.foldl_append
  rw [split, split]
  change Index.AgreeAt uri (run (((state.run earlier).step first).step second) later).index
    (run (((state.run earlier).step second).step first) later).index
  rw [index_run, index_run, sameDisk]
  exact (agree uri).replay _

omit firstAt secondAt apart

/-- The order of search results in every index that any operations make.  They are strictly
ordered, so none comes twice, and a query only leaves some of them out; every symbol is stored
under its own URI.  An index with the same entries gives the same results, and it does not matter
which of two neighbouring updates or files came first if they are about different URIs. -/
theorem search_ordered (disk : Disk) (operations : List IndexOperation) :
    let index := (run { disk } operations).index
    (∀ query, (index.search query).Pairwise Symbol.ListedBefore ∧ (index.search query).Nodup ∧
      (index.search query).Sublist (index.search [])) ∧
    (index.search []).length = index.size ∧
    (∀ uri symbols, index.symbols.get? uri = some symbols →
      ∀ symbol ∈ symbols, symbol.uri = uri) ∧
    (∀ other : Index, (∀ uri, other.symbols.get? uri = index.symbols.get? uri) →
      ∀ query, other.search query = index.search query) ∧
    ∀ earlier first second later u v, operations = earlier ++ first :: second :: later →
      first.target? = some u → second.target? = some v → u ≠ v →
      let swapped := (run { disk } (earlier ++ second :: first :: later)).index
      (∀ uri, index.AgreeAt uri swapped) ∧ ∀ query, index.search query = swapped.search query := by
  intro index
  have replayed : index = Index.replay {} (IndexOperation.history disk operations) :=
    index_run { disk } operations
  refine ⟨?_, ?_, ?_, fun other same => Index.search_congr same, ?_⟩
  · intro query
    have sorted : (index.search query).Pairwise Symbol.ListedBefore := by
      refine List.Pairwise.sublist (index.search_sublist query) ?_
      rw [replayed]
      exact Index.pairwise_listedBefore _
    refine ⟨sorted, sorted.imp Symbol.ListedBefore.ne, ?_⟩
    rw [Index.search_nil]
    exact index.search_sublist query
  · rw [Index.search_nil]
    rfl
  · intro uri symbols entry symbol member
    rw [replayed] at entry
    obtain ⟨content, rfl⟩ := Index.exists_content_of_replay entry
    exact Text.uri_of_mem_symbols member
  · rintro earlier first second later u v rfl firstAt secondAt apart swapped
    have agree := run_comm firstAt secondAt apart { disk } earlier later
    exact ⟨agree, Index.search_congr fun uri => (agree uri).get?_eq⟩

/-- A file is indexed and a document opened, in either order, and what is open is then lost from
sight. -/
theorem search_ordered_two_documents :
    let disk := ({} : Disk).write (Path.ofString "/b.rs") (.file (Path.ofString "fn b"))
    let indexed : IndexOperation := .indexFile (Path.ofString "/b.rs")
    let opened : IndexOperation := .update ⟨"file:///a.rs".toList⟩ "fn c fn a".toList
    let index := (run { disk } [indexed, opened]).index
    let swapped := (run { disk } [opened, indexed]).index
    indexed.target? = some ⟨"file:///b.rs".toList⟩ ∧
      (index.search []).map Symbol.name = ["c".toList, "a".toList, "b".toList] ∧
      index.search [] = swapped.search [] ∧
      Index.search { symbols := index.symbols } [] = index.search [] := by
  intro disk indexed opened index swapped
  have target : indexed.target? = some ⟨"file:///b.rs".toList⟩ := by decide +kernel
  obtain ⟨-, -, -, depends, commutes⟩ := search_ordered disk [indexed, opened]
  refine ⟨target, by decide +kernel, ?_, depends { symbols := index.symbols } (fun _ => rfl) []⟩
  exact (commutes [] indexed opened [] _ _ rfl target rfl (by decide +kernel)).2 []

end IndexState

end GotoDefinition
