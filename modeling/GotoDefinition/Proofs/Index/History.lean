import GotoDefinition.Index.Workspace
import Mathlib.Data.List.Induction

/-!
# The history of an index

Whatever is done to an index comes down to three kinds of events: the client hands over
the text of a document, a document is closed, and a file is read.  Every operation of the
index is the replay of its events (`close_eq_replay`, `indexWorkspace_eq_replay`), and the
entry of a URI after a history can be told from two of its events alone: the last one
about the ownership of the document and the last one about the disk (`get?_replay`).
-/

namespace GotoDefinition

/-- What happens to an index.  A file counts as read when its bytes are a text and its path
has a URI. -/
inductive IndexEvent where
  | updated (uri : Uri) (content : Text)
  | closed (uri : Uri)
  | read (uri : Uri) (content : Text)

namespace Index

/-! ## Replay -/

/-- The index after one event.  The text of a file that is open is dropped. -/
def apply (index : Index) : IndexEvent → Index
  | .updated uri content => index.update uri content
  | .closed uri => index.forget uri
  | .read uri content => index.commit { uri, symbols := content.symbols uri }

/-- The index after a history, the oldest event first. -/
def replay (index : Index) (history : List IndexEvent) : Index :=
  history.foldl apply index

@[simp] theorem replay_nil (index : Index) : index.replay [] = index := rfl

@[simp] theorem replay_cons (index : Index) (event : IndexEvent) (history : List IndexEvent) :
    index.replay (event :: history) = (index.apply event).replay history := rfl

theorem replay_append (index : Index) (earlier later : List IndexEvent) :
    index.replay (earlier ++ later) = (index.replay earlier).replay later :=
  List.foldl_append

/-! ## Events of the operations -/

/-- The event of reading a file, none if that fails or the path has no URI. -/
def readEvent? (disk : Disk) (path : Path) : Option IndexEvent :=
  match disk.read path with
  | .error _ => none
  | .ok bytes =>
    (Text.ofUtf8? bytes).bind fun content => (Uri.ofFilePath? path).map (.read · content)

/-- The events of closing a document: the close comes first, the read behind it. -/
def closeEvents (disk : Disk) (uri : Uri) : List IndexEvent :=
  .closed uri ::
    match uri.toFilePath? with
    | none => []
    | some path => if disk.isFile path then (readEvent? disk path).toList else []

/-- The events of indexing a workspace: the reads of the visited files that are not too large. -/
def workspaceEvents (disk : Disk) (root : Path) (maxFileSize : Nat) : List IndexEvent :=
  ((Ignore.walk disk root).filter fun visit => visit.content.length ≤ maxFileSize).filterMap
    fun visit => readEvent? disk visit.path

theorem indexFileOrSkip_eq_replay (index : Index) (disk : Disk) (path : Path) :
    index.indexFileOrSkip disk path = index.replay (readEvent? disk path).toList := by
  unfold indexFileOrSkip indexFile scanFile readEvent?
  cases disk.read path with
  | error reason => rfl
  | ok bytes =>
    simp only [scanBytes]
    cases Text.ofUtf8? bytes with
    | none => rfl
    | some content => cases Uri.ofFilePath? path <;> rfl

theorem close_eq_replay (index : Index) (disk : Disk) (uri : Uri) :
    index.close disk uri = index.replay (closeEvents disk uri) := by
  rw [close, closeEvents, replay_cons, apply]
  cases uri.toFilePath? with
  | none => rfl
  | some path =>
    simp only
    split
    · exact indexFileOrSkip_eq_replay _ disk path
    · rfl

theorem indexVisit_fst (disk : Disk) (maxFileSize : Nat) (state : Index × Nat)
    (visit : Ignore.Visit) :
    (indexVisit disk maxFileSize state visit).1 =
      if visit.content.length ≤ maxFileSize then state.1.indexFileOrSkip disk visit.path
      else state.1 := by
  obtain ⟨index, count⟩ := state
  simp only [indexVisit, indexFileOrSkip]
  by_cases tooLarge : maxFileSize < visit.content.length
  · rw [if_pos tooLarge, if_neg (by omega)]
  · rw [if_neg tooLarge, if_pos (by omega)]
    cases index.indexFile disk visit.path <;> rfl

theorem foldl_indexVisit_fst (disk : Disk) (maxFileSize : Nat) (visits : List Ignore.Visit)
    (state : Index × Nat) :
    (visits.foldl (indexVisit disk maxFileSize) state).1 =
      state.1.replay ((visits.filter fun visit => visit.content.length ≤ maxFileSize).filterMap
        fun visit => readEvent? disk visit.path) := by
  induction visits generalizing state with
  | nil => rfl
  | cons visit visits ih =>
    rw [List.foldl_cons, ih, indexVisit_fst]
    by_cases small : visit.content.length ≤ maxFileSize
    · rw [if_pos small, List.filter_cons_of_pos (by simpa using small),
        indexFileOrSkip_eq_replay, ← replay_append]
      cases event : readEvent? disk visit.path with
      | none => simp [event]
      | some found => simp [event]
    · rw [if_neg small, List.filter_cons_of_neg (by simpa using small)]

theorem indexWorkspace_eq_replay (index : Index) (disk : Disk) (root : Path) (maxFileSize : Nat) :
    (index.indexWorkspace disk root maxFileSize).1 =
      index.replay (workspaceEvents disk root maxFileSize) :=
  foldl_indexVisit_fst disk maxFileSize (Ignore.walk disk root) (index, 0)

end Index

/-! ## What a history leaves behind -/

namespace IndexEvent

/-- The client takes a document over or gives it back. -/
def concernsOwner (uri : Uri) : IndexEvent → Bool
  | .updated other _ => other == uri
  | .closed other => other == uri
  | .read _ _ => false

/-- A document is given back to the disk, or its file is read. -/
def concernsDisk (uri : Uri) : IndexEvent → Bool
  | .updated _ _ => false
  | .closed other => other == uri
  | .read other _ => other == uri

/-- The last event of a history that is of interest. -/
def latest? (isOfInterest : IndexEvent → Bool) (history : List IndexEvent) : Option IndexEvent :=
  (history.filter isOfInterest).getLast?

/-- The text that the client owns a document with: the last update, unless the document was
closed after it. -/
def ownedText? (history : List IndexEvent) (uri : Uri) : Option Text :=
  match latest? (concernsOwner uri) history with
  | some (.updated _ content) => some content
  | _ => none

/-- The text last read from disk, unless the document was closed after that. -/
def diskText? (history : List IndexEvent) (uri : Uri) : Option Text :=
  match latest? (concernsDisk uri) history with
  | some (.read _ content) => some content
  | _ => none

/-- The entry of a URI after a history: what the client owns masks what is on disk. -/
def entryAfter (history : List IndexEvent) (uri : Uri) : Option (List Symbol) :=
  ((ownedText? history uri).or (diskText? history uri)).map fun content => content.symbols uri

theorem latest?_concat (isOfInterest : IndexEvent → Bool) (history : List IndexEvent)
    (event : IndexEvent) :
    latest? isOfInterest (history ++ [event]) =
      if isOfInterest event then some event else latest? isOfInterest history := by
  unfold latest?
  rw [List.filter_append]
  by_cases ofInterest : isOfInterest event
  · simp [ofInterest]
  · simp [ofInterest]

theorem ownedText?_concat (history : List IndexEvent) (event : IndexEvent) (uri : Uri) :
    ownedText? (history ++ [event]) uri =
      match event with
      | .updated other content => if other = uri then some content else ownedText? history uri
      | .closed other => if other = uri then none else ownedText? history uri
      | .read _ _ => ownedText? history uri := by
  simp only [ownedText?, latest?_concat]
  cases event with
  | updated other content => by_cases same : other = uri <;> simp [concernsOwner, same]
  | closed other => by_cases same : other = uri <;> simp [concernsOwner, same]
  | read other content => simp [concernsOwner]

theorem diskText?_concat (history : List IndexEvent) (event : IndexEvent) (uri : Uri) :
    diskText? (history ++ [event]) uri =
      match event with
      | .updated _ _ => diskText? history uri
      | .closed other => if other = uri then none else diskText? history uri
      | .read other content => if other = uri then some content else diskText? history uri := by
  simp only [diskText?, latest?_concat]
  cases event with
  | updated other content => simp [concernsDisk]
  | closed other => by_cases same : other = uri <;> simp [concernsDisk, same]
  | read other content => by_cases same : other = uri <;> simp [concernsDisk, same]

theorem ownedText?_append {events : List IndexEvent} (history : List IndexEvent) {uri : Uri}
    (elsewhere : ∀ event ∈ events, concernsOwner uri event = false) :
    ownedText? (history ++ events) uri = ownedText? history uri := by
  have nothing : events.filter (concernsOwner uri) = [] :=
    List.filter_eq_nil_iff.2 fun event member => by simp [elsewhere event member]
  rw [ownedText?, latest?, List.filter_append, nothing, List.append_nil]
  rfl

end IndexEvent

namespace Index

open IndexEvent

theorem concernsOwner_of_readEvent? {disk : Disk} {path : Path} {event : IndexEvent}
    (isEvent : readEvent? disk path = some event) (uri : Uri) :
    concernsOwner uri event = false := by
  unfold readEvent? at isEvent
  split at isEvent
  next => cases isEvent
  next =>
    simp only [Option.bind_eq_some_iff, Option.map_eq_some_iff] at isEvent
    obtain ⟨content, -, fileUri, -, rfl⟩ := isEvent
    rfl

theorem ownedText?_workspaceEvents (history : List IndexEvent) (disk : Disk) (root : Path)
    (maxFileSize : Nat) (uri : Uri) :
    ownedText? (history ++ workspaceEvents disk root maxFileSize) uri = ownedText? history uri := by
  refine ownedText?_append history ?_
  intro event member
  obtain ⟨visit, -, isEvent⟩ := List.mem_filterMap.1 member
  exact concernsOwner_of_readEvent? isEvent uri

theorem ownedText?_closeEvents (history : List IndexEvent) (disk : Disk) (closed uri : Uri) :
    ownedText? (history ++ closeEvents disk closed) uri =
      if closed = uri then none else ownedText? history uri := by
  have readsBehind : ∃ reads, closeEvents disk closed = .closed closed :: reads ∧
      ∀ event ∈ reads, concernsOwner uri event = false := by
    refine ⟨_, rfl, ?_⟩
    intro event member
    split at member
    · exact absurd member List.not_mem_nil
    · split at member
      · exact concernsOwner_of_readEvent? (Option.mem_toList.1 member) uri
      · exact absurd member List.not_mem_nil
  -- The reads behind the close do not concern the owner, so the close is the last event.
  obtain ⟨reads, events_eq, elsewhere⟩ := readsBehind
  rw [events_eq, List.append_cons, ownedText?_append _ elsewhere, ownedText?_concat]

theorem isOpen_iff (index : Index) (uri : Uri) :
    index.isOpen uri = true ↔ uri ∈ index.openDocuments := by
  simp [isOpen]

theorem isOpen_apply (index : Index) (event : IndexEvent) (uri : Uri) :
    (index.apply event).isOpen uri =
      match event with
      | .updated other _ => decide (other = uri) || index.isOpen uri
      | .closed other => !decide (other = uri) && index.isOpen uri
      | .read _ _ => index.isOpen uri := by
  cases event with
  | updated other content =>
    by_cases same : other = uri
    · subst same
      simp [apply, update, isOpen]
    · simp [apply, update, isOpen, same, Ne.symm same]
  | closed other =>
    by_cases same : other = uri
    · subst same
      simp [apply, forget, isOpen]
    · simp [apply, forget, isOpen, same, Ne.symm same]
  | read other content =>
    simp only [apply, commit]
    split <;> rfl

theorem get?_apply (index : Index) (event : IndexEvent) (uri : Uri) :
    (index.apply event).symbols.get? uri =
      match event with
      | .updated other content =>
        if other = uri then some (content.symbols uri) else index.symbols.get? uri
      | .closed other => if other = uri then none else index.symbols.get? uri
      | .read other content =>
        if other = uri ∧ index.isOpen uri = false then some (content.symbols uri)
        else index.symbols.get? uri := by
  cases event with
  | updated other content =>
    by_cases same : other = uri
    · subst same
      simp [apply, update]
    · simp [apply, update, same, Ne.symm same]
  | closed other =>
    by_cases same : other = uri
    · subst same
      simp [apply, forget]
    · simp [apply, forget, same, Ne.symm same]
  | read other content =>
    simp only [apply, commit]
    by_cases same : other = uri
    · subst same
      cases index.isOpen other <;> simp
    · split <;> simp [same, Ne.symm same]

/-- What an index says about a URI after a history, in terms of the history alone. -/
theorem replay_spec (history : List IndexEvent) (uri : Uri) :
    (replay {} history).isOpen uri = (ownedText? history uri).isSome ∧
      (replay {} history).symbols.get? uri = entryAfter history uri := by
  -- The newest event decides, so the induction takes events off the end.
  induction history using List.reverseRecOn with
  | nil => exact ⟨rfl, rfl⟩
  | append_singleton history event ih =>
    obtain ⟨sameOpen, sameEntry⟩ := ih
    have opened := isOpen_apply (replay {} history) event uri
    have entered := get?_apply (replay {} history) event uri
    rw [sameOpen] at opened entered
    rw [sameEntry] at entered
    rw [replay_append, replay_cons, replay_nil, opened, entered]
    simp only [entryAfter, ownedText?_concat, diskText?_concat]
    cases event with
    | updated other content => by_cases same : other = uri <;> simp [same]
    | closed other => by_cases same : other = uri <;> simp [same]
    | read other content =>
      -- A document that is open keeps the text of its owner, whatever is read.
      by_cases same : other = uri
      · cases owned : ownedText? history uri <;> simp [same]
      · simp [same]

theorem isOpen_replay (history : List IndexEvent) (uri : Uri) :
    (replay {} history).isOpen uri = (ownedText? history uri).isSome :=
  (replay_spec history uri).1

theorem get?_replay (history : List IndexEvent) (uri : Uri) :
    (replay {} history).symbols.get? uri = entryAfter history uri :=
  (replay_spec history uri).2

/-- Every entry that a history leaves behind is a scan of some text. -/
theorem exists_content_of_replay {history : List IndexEvent} {uri : Uri} {symbols : List Symbol}
    (entry : (replay {} history).symbols.get? uri = some symbols) :
    ∃ content : Text, content.symbols uri = symbols := by
  rw [get?_replay, entryAfter] at entry
  obtain ⟨content, -, scanned⟩ := Option.map_eq_some_iff.1 entry
  exact ⟨content, scanned⟩

theorem indexFile_of_unreadable (index : Index) {disk : Disk} {path : Path} {reason : ReadError}
    (unreadable : disk.read path = .error reason) :
    index.indexFile disk path = .error (.unreadable path reason) := by
  simp only [indexFile, scanFile, unreadable]

theorem indexFile_of_notText (index : Index) {disk : Disk} {path : Path} {bytes : Bytes}
    (readable : disk.read path = .ok bytes) (notText : Text.ofUtf8? bytes = none) :
    index.indexFile disk path = .error (.notText path) := by
  simp only [indexFile, scanFile, readable, scanBytes, notText]

theorem readEvent?_of_noUri {disk : Disk} {path : Path} (noUri : Uri.ofFilePath? path = none) :
    readEvent? disk path = none := by
  unfold readEvent?
  cases disk.read path with
  | error reason => rfl
  | ok bytes => simp [noUri]

end Index

/-! ## Sequences of operations -/

/-- What may be done to an index, and changes of the disk in between. -/
inductive IndexOperation where
  | update (uri : Uri) (content : Text)
  | close (uri : Uri)
  | indexFile (path : Path)
  | indexWorkspace (root : Path) (maxFileSize : Nat)
  /-- Files are written or removed: the disk becomes another one. -/
  | changeDisk (disk : Disk)

/-- An index and the disk it is read from. -/
structure IndexState where
  disk : Disk
  index : Index := {}

namespace IndexState

/-- The state after an operation.  A file that cannot be indexed is skipped. -/
def step (state : IndexState) : IndexOperation → IndexState
  | .update uri content => { state with index := state.index.update uri content }
  | .close uri => { state with index := state.index.close state.disk uri }
  | .indexFile path => { state with index := state.index.indexFileOrSkip state.disk path }
  | .indexWorkspace root maxFileSize =>
    { state with index := (state.index.indexWorkspace state.disk root maxFileSize).1 }
  | .changeDisk disk => { state with disk }

def run (state : IndexState) (operations : List IndexOperation) : IndexState :=
  operations.foldl step state

end IndexState

namespace IndexOperation

/-- The events of an operation that finds the given disk. -/
def events (disk : Disk) : IndexOperation → List IndexEvent
  | .update uri content => [.updated uri content]
  | .close uri => Index.closeEvents disk uri
  | .indexFile path => (Index.readEvent? disk path).toList
  | .indexWorkspace root maxFileSize => Index.workspaceEvents disk root maxFileSize
  | .changeDisk _ => []

def diskAfter (disk : Disk) : IndexOperation → Disk
  | .changeDisk changed => changed
  | _ => disk

def history (disk : Disk) : List IndexOperation → List IndexEvent
  | [] => []
  | operation :: operations =>
    operation.events disk ++ history (operation.diskAfter disk) operations

end IndexOperation

namespace IndexState

theorem step_eq (state : IndexState) (operation : IndexOperation) :
    state.step operation =
      { disk := operation.diskAfter state.disk
        index := state.index.replay (operation.events state.disk) } := by
  cases operation with
  | update uri content => rfl
  | close uri => simp only [step, Index.close_eq_replay]; rfl
  | indexFile path => simp only [step, Index.indexFileOrSkip_eq_replay]; rfl
  | indexWorkspace root maxFileSize => simp only [step, Index.indexWorkspace_eq_replay]; rfl
  | changeDisk disk => rfl

theorem index_run (state : IndexState) (operations : List IndexOperation) :
    (state.run operations).index =
      state.index.replay (IndexOperation.history state.disk operations) := by
  induction operations generalizing state with
  | nil => rfl
  | cons operation operations ih =>
    have later := ih (state.step operation)
    rw [step_eq] at later
    rw [run, List.foldl_cons, step_eq, IndexOperation.history, Index.replay_append]
    exact later

theorem step_indexFile_of_readEvent? {state : IndexState} {path : Path}
    (noEvent : Index.readEvent? state.disk path = none) :
    state.step (.indexFile path) = state := by
  rw [step_eq, IndexOperation.events, noEvent]
  rfl

/-- The last writer of an entry wins, and an open document masks the disk.  Whatever was
done to an index that began empty, the entry of a URI is the one that the last events about
it leave behind; a file that is unreadable, no text or without a URI changes nothing. -/
theorem last_writer_wins (disk : Disk) (operations : List IndexOperation) :
    (∀ uri, (run { disk } operations).index.symbols.get? uri =
      IndexEvent.entryAfter (IndexOperation.history disk operations) uri) ∧
    ∀ (state : IndexState) (path : Path),
      (∀ reason, state.disk.read path = .error reason →
        state.index.indexFile state.disk path = .error (.unreadable path reason) ∧
          state.step (.indexFile path) = state) ∧
      (∀ bytes, state.disk.read path = .ok bytes → Text.ofUtf8? bytes = none →
        state.index.indexFile state.disk path = .error (.notText path) ∧
          state.step (.indexFile path) = state) ∧
      (Uri.ofFilePath? path = none → state.step (.indexFile path) = state) := by
  constructor
  · intro uri
    rw [index_run]
    exact Index.get?_replay _ uri
  · intro state path
    refine ⟨?_, ?_, ?_⟩
    · intro reason unreadable
      refine ⟨Index.indexFile_of_unreadable state.index unreadable, ?_⟩
      exact step_indexFile_of_readEvent? (by simp only [Index.readEvent?, unreadable])
    · intro bytes readable notText
      refine ⟨Index.indexFile_of_notText state.index readable notText, ?_⟩
      exact step_indexFile_of_readEvent? (by simp [Index.readEvent?, readable, notText])
    · intro noUri
      exact step_indexFile_of_readEvent? (Index.readEvent?_of_noUri noUri)

/-- A file that is read while its document is open is read again when the document is closed,
and a file that is missing leaves all of that as it is. -/
theorem last_writer_wins_after_closing :
    let uri : Uri := ⟨"file:///a.rs".toList⟩
    let path := Path.ofString "/a.rs"
    let missing := Path.ofString "/b.rs"
    let disk := ({} : Disk).write path (.file (Path.ofString "fn disk"))
    let state := run { disk } [.update uri "fn mine".toList, .indexFile path, .close uri]
    state.index.symbols.get? uri = some (Text.symbols "fn disk".toList uri) ∧
      state.step (.indexFile missing) = state := by
  intro uri path missing disk state
  obtain ⟨entries, failures⟩ :=
    last_writer_wins disk [.update uri "fn mine".toList, .indexFile path, .close uri]
  have unreadable : state.disk.read missing = .error .notFound := by decide +kernel
  refine ⟨?_, ((failures state missing).1 .notFound unreadable).2⟩
  rw [entries uri]
  decide +kernel

end IndexState

end GotoDefinition
