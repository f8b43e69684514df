import GotoDefinition.Proofs.Index.Search
import GotoDefinition.Proofs.Uri.FilePath

/-!
# Who owns a file

The index knows open documents by their URIs, and a file that is read gets the URI of its path.
An open document therefore keeps its file out of the index if its URI is the one that reading the
file gives it.  For any other spelling of the same file the two live side by side
(`open_document_owns_file`).
-/

namespace GotoDefinition

open IndexEvent (concernsDisk diskText? latest? ownedText?)

/-! ## Where entries come from -/

theorem IndexEvent.read_mem_of_diskText? {history : List IndexEvent} {uri : Uri} {content : Text}
    (onDisk : diskText? history uri = some content) : .read uri content ∈ history := by
  unfold diskText? at onDisk
  split at onDisk
  next other found latest_eq =>
    obtain rfl := Option.some.inj onDisk
    obtain ⟨member, concerns⟩ := List.mem_filter.1 (List.mem_of_getLast? latest_eq)
    obtain rfl : other = uri := by simpa [concernsDisk] using concerns
    exact member
  next => cases onDisk

namespace Index

theorem exists_path_of_readEvent? {disk : Disk} {path : Path} {uri : Uri} {content : Text}
    (isEvent : readEvent? disk path = some (.read uri content)) :
    Uri.ofFilePath? path = some uri := by
  unfold readEvent? at isEvent
  split at isEvent
  next => cases isEvent
  next =>
    simp only [Option.bind_eq_some_iff, Option.map_eq_some_iff] at isEvent
    obtain ⟨read, -, fileUri, isUri, event_eq⟩ := isEvent
    cases event_eq
    exact isUri

theorem exists_path_of_read_mem_events {disk : Disk} {operation : IndexOperation} {uri : Uri}
    {content : Text} (member : .read uri content ∈ operation.events disk) :
    ∃ file, Uri.ofFilePath? file = some uri := by
  cases operation with
  | update other text => simp [IndexOperation.events] at member
  | close other =>
    rcases List.mem_cons.1 member with isClose | isRead
    · cases isClose
    -- What is read again gets the URI of the path, not the one that is closed.
    · split at isRead
      · cases isRead
      next path _ =>
        split at isRead
        · exact ⟨path, exists_path_of_readEvent? (Option.mem_toList.1 isRead)⟩
        · cases isRead
  | indexFile path =>
    exact ⟨path, exists_path_of_readEvent? (Option.mem_toList.1 member)⟩
  | indexWorkspace root maxFileSize =>
    obtain ⟨visit, -, isEvent⟩ := List.mem_filterMap.1 member
    exact ⟨visit.path, exists_path_of_readEvent? isEvent⟩
  | changeDisk changed => cases member

/-- Whatever is read gets the URI of the path it is read from. -/
theorem exists_path_of_read_mem_history {operations : List IndexOperation} {disk : Disk} {uri : Uri}
    {content : Text} (member : .read uri content ∈ IndexOperation.history disk operations) :
    ∃ file, Uri.ofFilePath? file = some uri := by
  induction operations generalizing disk with
  | nil => cases member
  | cons operation operations ih =>
    rcases List.mem_append.1 member with here | later
    · exact exists_path_of_read_mem_events here
    · exact ih later

/-- An entry that no open document stands behind was read, and has the URI of a path. -/
theorem exists_path_of_get?_run {disk : Disk} {operations : List IndexOperation} {uri : Uri}
    {symbols : List Symbol}
    (notOpen : uri ∉ (IndexState.run { disk } operations).index.openDocuments)
    (entry : (IndexState.run { disk } operations).index.symbols.get? uri = some symbols) :
    ∃ file, Uri.ofFilePath? file = some uri := by
  rw [← isOpen_iff, IndexState.index_run, isOpen_replay] at notOpen
  rw [IndexState.index_run, get?_replay, IndexEvent.entryAfter] at entry
  obtain ⟨content, held, -⟩ := Option.map_eq_some_iff.1 entry
  have notOwned : ownedText? (IndexOperation.history disk operations) uri = none := by
    simpa using notOpen
  rw [notOwned, Option.none_or] at held
  exact exists_path_of_read_mem_history (IndexEvent.read_mem_of_diskText? held)

/-! ## Ownership -/

/-- A document whose URI is the one of its path leaves no room for another entry of its file. -/
theorem get?_eq_none_of_owned {disk : Disk} {operations : List IndexOperation} {uri other : Uri}
    {path : Path} (named : uri.toFilePath? = some path)
    (canonical : Uri.ofFilePath? path = some uri)
    (isOpen : uri ∈ (IndexState.run { disk } operations).index.openDocuments)
    (notOpen : other ∉ (IndexState.run { disk } operations).index.openDocuments)
    (sameFile : other.NamesFile path) :
    (IndexState.run { disk } operations).index.symbols.get? other = none := by
  cases entry : (IndexState.run { disk } operations).index.symbols.get? other with
  | none => rfl
  | some symbols =>
    obtain ⟨file, isUri⟩ := exists_path_of_get?_run notOpen entry
    have otherCanonical := Uri.ofFilePath?_of_namesFile isUri
      (Uri.isAbsolute_of_toFilePath? named) sameFile
    -- Both are the URI of one path, so the entry would be the one of the open document.
    obtain rfl : uri = other := Option.some.inj (canonical.symm.trans otherCanonical)
    exact absurd isOpen notOpen

/-- Two spellings of one file side by side: the document that is open, and the file as it is
read. -/
theorem run_update_indexFile {disk : Disk} {file : Path} {bytes : Bytes} {content : Text}
    {uri other : Uri} (isUri : Uri.ofFilePath? file = some other) (differ : uri ≠ other)
    (readable : disk.read file = .ok bytes) (isText : Text.ofUtf8? bytes = some content)
    (text : Text) :
    let index := (IndexState.run { disk } [.update uri text, .indexFile file]).index
    uri ∈ index.openDocuments ∧ other ∉ index.openDocuments ∧
      index.symbols.get? other = some (content.symbols other) := by
  intro index
  have event : readEvent? disk file = some (.read other content) := by
    simp [readEvent?, readable, isText, isUri]
  have replayed : index = replay {} [.updated uri text, .read other content] := by
    have history_eq := IndexState.index_run { disk } [.update uri text, .indexFile file]
    simpa [IndexOperation.history, IndexOperation.events, IndexOperation.diskAfter, event]
      using history_eq
  have owned : ownedText? [.updated uri text, .read other content] uri = some text := by
    simp [ownedText?, latest?, IndexEvent.concernsOwner]
  have notOwned : ownedText? [.updated uri text, .read other content] other = none := by
    simp [ownedText?, latest?, IndexEvent.concernsOwner, differ]
  have onDisk : diskText? [.updated uri text, .read other content] other = some content := by
    simp [diskText?, latest?, concernsDisk]
  refine ⟨?_, ?_, ?_⟩
  · rw [← isOpen_iff, replayed, isOpen_replay, owned]
    rfl
  · rw [← isOpen_iff, replayed, isOpen_replay, notOwned]
    simp
  · rw [replayed, get?_replay, IndexEvent.entryAfter, notOwned, onDisk]
    rfl

/-- A document that is open owns the file that its URI names if the URI is the one of the path:
then, whatever operations came before, no other document of that file has an entry unless it is
open too, and so no search finds what was read from the file.  Under any other spelling the
symbols of the file come in beside those of the open document as soon as it is read. -/
theorem open_document_owns_file {uri : Uri} {path : Path} (named : uri.toFilePath? = some path) :
    (Uri.ofFilePath? path = some uri →
      ∀ (disk : Disk) (operations : List IndexOperation),
        let index := (IndexState.run { disk } operations).index
        uri ∈ index.openDocuments →
          (∀ other, other ∉ index.openDocuments → other.NamesFile path →
            index.symbols.get? other = none) ∧
          ∀ query, ∀ symbol ∈ index.search query, symbol.uri.NamesFile path →
            symbol.uri ∈ index.openDocuments) ∧
    (Uri.ofFilePath? path ≠ some uri →
      ∀ (disk : Disk) (file : Path) (bytes : Bytes) (content text : Text),
        file.isAbsolute = true → file.components = path.components →
        disk.read file = .ok bytes → Text.ofUtf8? bytes = some content →
        content.declarations ≠ [] →
        let index := (IndexState.run { disk } [.update uri text, .indexFile file]).index
        uri ∈ index.openDocuments ∧
          ∃ symbol ∈ index.search [], symbol.uri.NamesFile path ∧
            symbol.uri ∉ index.openDocuments) := by
  constructor
  · intro canonical disk operations index isOpen
    have owned : ∀ other, other ∉ index.openDocuments → other.NamesFile path →
        index.symbols.get? other = none := fun other notOpen sameFile =>
      get?_eq_none_of_owned named canonical isOpen notOpen sameFile
    refine ⟨owned, ?_⟩
    intro query symbol member sameFile
    by_contra notOpen
    have replayed : index = replay {} (IndexOperation.history disk operations) :=
      IndexState.index_run { disk } operations
    have held := mem_allSymbols_of_mem_search member
    have absent := owned symbol.uri notOpen sameFile
    rw [replayed] at held absent
    obtain ⟨content, entry, -⟩ := exists_content_of_mem_allSymbols held
    rw [absent] at entry
    cases entry
  · intro otherSpelling disk file bytes content text absolute same readable isText declares index
    obtain ⟨other, isUri⟩ : ∃ other, Uri.ofFilePath? file = some other :=
      ⟨_, if_pos absolute⟩
    have differ : uri ≠ other := by
      rintro rfl
      rw [← Uri.ofFilePath?_congr absolute (Uri.isAbsolute_of_toFilePath? named) same]
        at otherSpelling
      exact otherSpelling isUri
    obtain ⟨isOpen, notOpen, entry⟩ := run_update_indexFile isUri differ readable isText text
    obtain ⟨symbol, isSymbol⟩ := Text.exists_mem_symbols declares other
    obtain ⟨back, back_eq, backComponents⟩ := Uri.toFilePath?_of_ofFilePath? isUri
    have symbolUri : symbol.uri = other := Text.uri_of_mem_symbols isSymbol
    refine ⟨isOpen, symbol, ?_, ?_, ?_⟩
    · rw [search_nil]
      exact (mem_allSymbols_iff _ _).2 ⟨other, _, entry, isSymbol⟩
    · rw [symbolUri]
      exact ⟨back, back_eq, by rw [backComponents, same]⟩
    · rw [symbolUri]
      exact notOpen

/-- The file was read before its document was opened, and is read again behind it. -/
theorem open_document_owns_file_read_twice :
    let uri : Uri := ⟨"file:///a%20b.rs".toList⟩
    let path := Path.ofString "/a b.rs"
    let disk := ({} : Disk).write path (.file (Path.ofString "fn disk"))
    let index := (IndexState.run { disk }
      [.indexFile path, .update uri "fn mine".toList, .indexFile path]).index
    uri.toFilePath? = some path ∧ Uri.ofFilePath? path = some uri ∧
      uri ∈ index.openDocuments ∧ (index.search []).map Symbol.name = ["mine".toList] ∧
      ∀ query, ∀ symbol ∈ index.search query, symbol.uri.NamesFile path →
        symbol.uri ∈ index.openDocuments := by
  intro uri path disk index
  have named : uri.toFilePath? = some path := by decide +kernel
  have canonical : Uri.ofFilePath? path = some uri := by decide +kernel
  have isOpen : uri ∈ index.openDocuments := by decide +kernel
  refine ⟨named, canonical, isOpen, by decide +kernel, ?_⟩
  exact ((open_document_owns_file named).1 canonical disk _ isOpen).2

/-- A document opened under another spelling of its file: a search returns what is on disk. -/
theorem disk_copy_beside_open_document :
    let uri : Uri := ⟨"file:///%61.rs".toList⟩
    let path := Path.ofString "/a.rs"
    let disk := ({} : Disk).write path (.file (Path.ofString "fn disk"))
    let index := (IndexState.run { disk } [.update uri "fn mine".toList, .indexFile path]).index
    uri ∈ index.openDocuments ∧ uri.toFilePath? = some path ∧
      ∃ symbol ∈ index.search [], symbol.name = "disk".toList ∧
        symbol.uri.toFilePath? = some path ∧ symbol.uri ∉ index.openDocuments := by
  decide +kernel

end Index

end GotoDefinition
