import GotoDefinition.Proofs.Index.History
import GotoDefinition.Proofs.Server.Step

/-!
# Open documents and the index

The server keeps the texts of open documents in one place and their symbols in another.
Both are determined by one history: the index is its replay, and a document is open with
the text that the history leaves with the client (`Recorded`).  Every step extends the
history by its events, so the two never drift apart.
-/

namespace GotoDefinition.Server

open IndexEvent (ownedText?)

/-- The index and the open documents tell of the same history. -/
structure Recorded (server : Server) (history : List IndexEvent) : Prop where
  index_eq : server.index = Index.replay {} history
  text_eq : ∀ uri, (server.documents.get? uri).map OpenDocument.text = ownedText? history uri

/-! ## Steps -/

variable {server : Server} {history : List IndexEvent}

theorem Recorded.of_frame {next : Server} (recorded : Recorded server history)
    (sameIndex : next.index = server.index) (sameDocuments : next.documents = server.documents) :
    Recorded next history where
  index_eq := by rw [sameIndex, recorded.index_eq]
  text_eq uri := by rw [sameDocuments, recorded.text_eq uri]

/-- Handing over a text puts it into both places. -/
theorem Recorded.update {next : Server} {uri : Uri} {document : OpenDocument}
    (recorded : Recorded server history)
    (index_eq : next.index = server.index.update uri document.text)
    (documents_eq : next.documents = server.documents.insert uri document) :
    Recorded next (history ++ [.updated uri document.text]) where
  index_eq := by
    rw [index_eq, recorded.index_eq, Index.replay_append]
    rfl
  text_eq other := by
    rw [documents_eq, IndexEvent.ownedText?_concat]
    by_cases same : uri = other
    · subst same
      simp
    · simp [same, Ne.symm same, recorded.text_eq other]

theorem Recorded.close (recorded : Recorded server history) (disk : Disk) (uri : Uri) :
    Recorded (server.closeDocument disk uri).1 (history ++ Index.closeEvents disk uri) where
  index_eq := by
    rw [Index.replay_append, ← recorded.index_eq, ← Index.close_eq_replay]
    rfl
  text_eq other := by
    rw [Index.ownedText?_closeEvents]
    change ((server.documents.erase uri).get? other).map OpenDocument.text = _
    rw [UriTable.get?_erase]
    by_cases same : uri = other
    · simp [same]
    · simp [same, Ne.symm same, recorded.text_eq other]

theorem Recorded.indexWorkspace {next : Server} {disk : Disk} {root : Path} {maxFileSize : Nat}
    (recorded : Recorded server history)
    (index_eq : next.index = (server.index.indexWorkspace disk root maxFileSize).1)
    (sameDocuments : next.documents = server.documents) :
    Recorded next (history ++ Index.workspaceEvents disk root maxFileSize) where
  index_eq := by
    rw [index_eq, recorded.index_eq, Index.indexWorkspace_eq_replay, Index.replay_append]
  text_eq uri := by
    rw [sameDocuments, Index.ownedText?_workspaceEvents, recorded.text_eq uri]

/-- Every step extends the history. -/
theorem Recorded.step {surroundings : Surroundings} {sent : List Sent} {next : Server}
    (recorded : Recorded server history) (step : Step surroundings server sent next) :
    ∃ events, Recorded next (history ++ events) := by
  have unchanged : ∀ {next : Server}, next.index = server.index →
      next.documents = server.documents → ∃ events, Recorded next (history ++ events) := by
    intro next sameIndex sameDocuments
    exact ⟨[], by rw [List.append_nil]; exact recorded.of_frame sameIndex sameDocuments⟩
  cases step with
  | start params fresh => exact unchanged rfl rfl
  | ready running =>
    obtain ⟨index, registered, next_eq, rfl | ⟨root, -, rfl⟩⟩ := ready_frame server surroundings
    · rw [next_eq]
      exact unchanged rfl rfl
    -- A scan reads files only, so no document changes hands.
    · rw [next_eq]
      exact ⟨_, recorded.indexWorkspace rfl rfl⟩
  | configure running settings =>
    obtain ⟨changed, registered, next_eq⟩ :=
      changeConfiguration_frame server surroundings.replies settings
    rw [next_eq]
    exact unchanged rfl rfl
  | openDocument running params => exact ⟨_, recorded.update rfl rfl⟩
  | changeDocument running params =>
    unfold changeDocument
    split
    · exact ⟨_, recorded.update rfl rfl⟩
    -- Without a step or without the document neither place is touched.
    · exact unchanged rfl rfl
  | closeDocument running uri => exact ⟨_, recorded.close surroundings.disk uri⟩
  | answer running searches sent noRequest => exact unchanged rfl rfl
  | turn phase onward => exact unchanged rfl rfl

theorem Reachable.recorded (reachable : Reachable server) :
    ∃ history, Recorded server history := by
  refine reachable.invariant (motive := fun server => ∃ history, Recorded server history) ?_ ?_ ?_
  · intro overrides compiler
    exact ⟨[], rfl, fun uri => rfl⟩
  · intro source compiler
    exact ⟨[], rfl, fun uri => rfl⟩
  · rintro surroundings server sent next ⟨history, recorded⟩ step
    obtain ⟨events, extended⟩ := recorded.step step
    exact ⟨history ++ events, extended⟩

/-! ## Agreement -/

theorem Recorded.isOpen_iff (recorded : Recorded server history) (uri : Uri) :
    (∃ document, server.documents.get? uri = some document) ↔
      uri ∈ server.index.openDocuments := by
  rw [← Index.isOpen_iff, recorded.index_eq, Index.isOpen_replay, ← recorded.text_eq,
    Option.isSome_map, Option.isSome_iff_exists]

theorem Recorded.get?_symbols (recorded : Recorded server history) {uri : Uri}
    {document : OpenDocument} (isOpen : server.documents.get? uri = some document) :
    server.index.symbols.get? uri = some (document.text.symbols uri) := by
  have owned := recorded.text_eq uri
  rw [isOpen, Option.map_some] at owned
  rw [recorded.index_eq, Index.get?_replay, IndexEvent.entryAfter, ← owned]
  rfl

/-- The documents of the server are the ones that the index takes for open, and the index
holds for each of them the symbols of the text that the server has. -/
theorem documents_match_index (reachable : Reachable server) :
    (∀ uri, (∃ document, server.documents.get? uri = some document) ↔
      uri ∈ server.index.openDocuments) ∧
    ∀ uri document, server.documents.get? uri = some document →
      server.index.symbols.get? uri = some (document.text.symbols uri) := by
  obtain ⟨history, recorded⟩ := reachable.recorded
  constructor
  · intro uri
    exact recorded.isOpen_iff uri
  · intro uri document isOpen
    exact recorded.get?_symbols isOpen

/-! ## A conversation -/

/-- An empty disk and no settings of the user. -/
def nowhere : Surroundings where
  disk := { entries := [], distinct := List.nodup_nil }
  userFile := none

def greeting : Message where
  id := some (.nat 0)
  method := "initialize"
  params := some (.ofMembers [("capabilities", .ofMembers [])])

def opening (uri text : String) : Message where
  id := none
  method := "textDocument/didOpen"
  params := some (.ofMembers [("textDocument", .ofMembers [
    ("uri", .string uri), ("languageId", .string "rust"), ("version", .nat 1),
    ("text", .string text)])])

/-- A change without any step. -/
def emptyChange (uri : String) : Message where
  id := none
  method := "textDocument/didChange"
  params := some (.ofMembers [
    ("textDocument", .ofMembers [("uri", .string uri), ("version", .nat 2)]),
    ("contentChanges", .array [])])

theorem documents_match_index_after_empty_change :
    let uri : Uri := ⟨"file:///a.rs".toList⟩
    ∃ server document, Reachable server ∧
      server.documents.get? uri = some document ∧ document.text = "fn one".toList ∧
      server.index.symbols.get? uri = some (document.text.symbols uri) := by
  intro uri
  obtain ⟨server, conversation, evaluated⟩ : ∃ server,
      (connectedTo {}).converse [(nowhere, greeting), (nowhere, opening "file:///a.rs" "fn one"),
        (nowhere, emptyChange "file:///a.rs")] = some server ∧
      decide ((server.documents.get? uri).map OpenDocument.text = some "fn one".toList) = true :=
    (Option.any_eq_true _ _).1 (by decide +kernel)
  obtain ⟨document, isOpen, text_eq⟩ := Option.map_eq_some_iff.1 (of_decide_eq_true evaluated)
  have reachable : Reachable server := .converse (.connected {} .standard) conversation
  exact ⟨server, document, reachable, isOpen, text_eq,
    (documents_match_index reachable).2 uri document isOpen⟩

end GotoDefinition.Server
