import GotoDefinition.Proofs.Index.Interleaving
import GotoDefinition.Server.Handlers

/-!
# A document closed and opened again

Closing a document takes it out of the open documents at once, but what is left to do, in the
index and on disk, is done on the side, and meanwhile the server may handle the next message.
If that message opens the document again, the steps of the two handlers come in any order.
The document itself is always kept.  The index has it as an open document with the symbols of
its new text if it was forgotten there before it was updated, and otherwise has lost it
(`reopened_iff_forgotten_first`).
-/

namespace GotoDefinition

/-- The document that the client opens. -/
def OpenParams.document (params : OpenParams) : OpenDocument where
  text := params.text
  languageId := params.languageId
  version := params.version

/-- What a handler does at one go. -/
inductive HandlerStep where
  | drop (uri : Uri)
  | keep (uri : Uri) (document : OpenDocument)
  | index (step : IndexStep)

namespace HandlerStep

/-- The server after a step. -/
def onServer (server : Server) : HandlerStep → Server
  | .drop uri => { server with documents := server.documents.erase uri }
  | .keep uri document => { server with documents := server.documents.insert uri document }
  | .index step => { server with index := step.onIndex server.index }

/-- What a handler goes on with behind a step. -/
def followUp (disk : Disk) : HandlerStep → List HandlerStep
  | .drop _ => []
  | .keep _ _ => []
  | .index step => (step.followUp disk).map .index

/-- The steps that the handler of a close begins with. -/
def closing (uri : Uri) : List HandlerStep :=
  .drop uri :: (IndexCall.close uri).steps.map .index

/-- The steps of the handler that opens a document. -/
def opening (params : OpenParams) : List HandlerStep :=
  [.index (.update params.uri params.text), .keep params.uri params.document]

end HandlerStep

/-- A server with a close and an open under way. -/
structure Reopening where
  server : Server
  /-- What is left to do of the close. -/
  closing : List HandlerStep
  /-- What is left to do of the open. -/
  opening : List HandlerStep
  /-- The steps so far, the oldest first. -/
  taken : List HandlerStep := []

inductive Handler where
  | closing
  | opening

namespace Reopening

/-- One of the handlers takes its next step, if it has one, and finds the given disk. -/
def move (state : Reopening) (turn : Disk × Handler) : Reopening :=
  match turn.2, state.closing, state.opening with
  | .closing, step :: rest, _ =>
    { state with
      server := step.onServer state.server
      closing := step.followUp turn.1 ++ rest
      taken := state.taken ++ [step] }
  | .opening, _, step :: rest =>
    { state with
      server := step.onServer state.server
      opening := step.followUp turn.1 ++ rest
      taken := state.taken ++ [step] }
  | _, _, _ => state

def run (state : Reopening) (turns : List (Disk × Handler)) : Reopening :=
  turns.foldl move state

theorem run_append (state : Reopening) (turns later : List (Disk × Handler)) :
    state.run (turns ++ later) = (state.run turns).run later :=
  List.foldl_append

/-- A close and an open of the same document, and neither has begun. -/
def start (server : Server) (params : OpenParams) : Reopening where
  server := server
  closing := HandlerStep.closing params.uri
  opening := HandlerStep.opening params

/-! ## Handlers without interruption -/

theorem run_of_finishes {disk : Disk} {index last : Index} {steps : List IndexStep}
    (finishes : Finishes disk index steps last) (server : Server)
    (opening taken : List HandlerStep) :
    ∃ count later,
      run { server := { server with index }, closing := steps.map .index, opening, taken }
          (List.replicate count (disk, .closing)) =
        { server := { server with index := last }, closing := [], opening, taken := later } := by
  induction finishes generalizing taken with
  | done index => exact ⟨0, taken, rfl⟩
  | @step index last step rest finishes ih =>
    obtain ⟨count, later, finished⟩ := ih (taken ++ [.index step])
    refine ⟨count + 1, later, ?_⟩
    rw [List.replicate_succ, run, List.foldl_cons, ← finished, List.map_append]
    rfl

/-- If the steps of the close follow one another, and then those of the open, the server handles
one message after the other. -/
theorem run_uninterrupted (server : Server) (params : OpenParams) (disk : Disk) :
    ∃ count later,
      run (start server params)
          (List.replicate count (disk, .closing) ++ List.replicate 2 (disk, .opening)) =
        { server := ((server.closeDocument disk params.uri).1.openDocument params).1
          closing := [], opening := [], taken := later } := by
  obtain ⟨count, later, finished⟩ :=
    run_of_finishes (Finishes.call (.close params.uri) disk server.index)
      { server with documents := server.documents.erase params.uri }
      (HandlerStep.opening params) [.drop params.uri]
  refine ⟨count + 1, later ++ HandlerStep.opening params, ?_⟩
  have closed : run (start server params) (List.replicate (count + 1) (disk, .closing)) =
      { server := (server.closeDocument disk params.uri).1, closing := []
        opening := HandlerStep.opening params, taken := later } := finished
  rw [run_append, closed]
  simp [run, move, HandlerStep.opening, HandlerStep.onServer, HandlerStep.followUp,
    IndexStep.followUp, IndexStep.onIndex, Server.openDocument, OpenParams.document]

end Reopening

/-! ## Handlers in any order -/

namespace HandlerStep

/-- The steps of a close behind the one that forgets the document. -/
def OnDisk : HandlerStep → Prop
  | .index (.lookFor _) => True
  | .index (.read _) => True
  | .index (.commit _) => True
  | _ => False

theorem OnDisk.followUp {step : HandlerStep} (onDisk : step.OnDisk) (disk : Disk) :
    ∀ next ∈ step.followUp disk, next.OnDisk := by
  intro next member
  match step, onDisk with
  | .index (.lookFor path), _ =>
    simp only [HandlerStep.followUp, IndexStep.followUp] at member
    split at member
    · obtain rfl := List.mem_singleton.1 member
      trivial
    · exact absurd member List.not_mem_nil
  | .index (.read path), _ =>
    simp only [HandlerStep.followUp, IndexStep.followUp] at member
    split at member
    · obtain rfl := List.mem_singleton.1 member
      trivial
    · exact absurd member List.not_mem_nil
  | .index (.commit scan), _ => exact absurd member List.not_mem_nil

/-- Such a step never touches a document that is open. -/
theorem OnDisk.onServer {step : HandlerStep} (onDisk : step.OnDisk) (server : Server) (uri : Uri) :
    (step.onServer server).documents = server.documents ∧
      (step.onServer server).index.isOpen uri = server.index.isOpen uri ∧
      (server.index.isOpen uri = true →
        (step.onServer server).index.symbols.get? uri = server.index.symbols.get? uri) := by
  match step, onDisk with
  | .index (.lookFor path), _ => exact ⟨rfl, rfl, fun _ => rfl⟩
  | .index (.read path), _ => exact ⟨rfl, rfl, fun _ => rfl⟩
  | .index (.commit scan), _ =>
    refine ⟨rfl, IndexStep.isOpen_onIndex _ (.commit scan) uri, ?_⟩
    intro isOpen
    have entry := IndexStep.get?_onIndex server.index (.commit scan) uri
    simp only [isOpen, Bool.true_eq_false, and_false, if_false] at entry
    exact entry

end HandlerStep

theorem pair_sublist_concat {α : Type} {a b c : α} {items : List α} :
    [a, b].Sublist (items ++ [c]) ↔ [a, b].Sublist items ∨ a ∈ items ∧ b = c := by
  have turned : [b, a].Sublist (c :: items.reverse) ↔
      [b, a].Sublist items.reverse ∨ b = c ∧ [a].Sublist items.reverse := by
    rw [List.sublist_cons_iff]
    simp
  have pair : [b, a] = [a, b].reverse := rfl
  rw [pair, ← List.reverse_concat, List.reverse_sublist, List.reverse_sublist,
    List.singleton_sublist, List.mem_reverse] at turned
  rw [turned, and_comm]

theorem pair_sublist_or {α : Type} {a b : α} {items : List α} (first : a ∈ items)
    (second : b ∈ items) (differ : a ≠ b) : [a, b].Sublist items ∨ [b, a].Sublist items := by
  obtain ⟨front, back, rfl⟩ := List.append_of_mem first
  rcases List.mem_append.1 second with inFront | inBack
  · exact .inr ((List.singleton_sublist.2 inFront).append
      (List.singleton_sublist.2 List.mem_cons_self))
  · rcases List.mem_cons.1 inBack with rfl | later
    · exact absurd rfl differ
    · exact .inl (((List.singleton_sublist.2 later).cons_cons a).trans
        (List.sublist_append_right front _))

namespace Reopening

/-- The step that forgets the document. -/
def forget (params : OpenParams) : HandlerStep :=
  .index (.forget params.uri)

/-- The step that puts the new text into the index. -/
def update (params : OpenParams) : HandlerStep :=
  .index (.update params.uri params.text)

/-- How far the close has come, once the document was taken out of the open ones. -/
inductive ClosingLeft (params : OpenParams) (taken : List HandlerStep) :
    List HandlerStep → Prop where
  | forgetting {reads : List HandlerStep} (notYet : forget params ∉ taken)
      (onDisk : ∀ step ∈ reads, step.OnDisk) : ClosingLeft params taken (forget params :: reads)
  | reading {reads : List HandlerStep} (forgotten : forget params ∈ taken)
      (onDisk : ∀ step ∈ reads, step.OnDisk) : ClosingLeft params taken reads

/-- How far the open has come. -/
inductive OpeningLeft (params : OpenParams) (taken : List HandlerStep)
    (documents : UriTable OpenDocument) : List HandlerStep → Prop where
  | updating (notYet : update params ∉ taken) :
    OpeningLeft params taken documents [update params, .keep params.uri params.document]
  | keeping (updated : update params ∈ taken) :
    OpeningLeft params taken documents [.keep params.uri params.document]
  | finished (updated : update params ∈ taken)
      (kept : documents.get? params.uri = some params.document) :
    OpeningLeft params taken documents []

/-- What the index says about the document when it was both forgotten and updated. -/
structure Owned (params : OpenParams) (taken : List HandlerStep) (index : Index) : Prop where
  kept : [forget params, update params].Sublist taken → index.isOpen params.uri = true ∧
    index.symbols.get? params.uri = some (params.text.symbols params.uri)
  lost : [update params, forget params].Sublist taken → index.isOpen params.uri = false

structure Sound (params : OpenParams) (state : Reopening) : Prop where
  closing : ClosingLeft params state.taken state.closing
  opening : OpeningLeft params state.taken state.server.documents state.opening
  owned : Owned params state.taken state.server.index

/-! ## One step -/

variable {params : OpenParams} {taken left : List HandlerStep} {step : HandlerStep}

theorem forget_ne_update (params : OpenParams) : forget params ≠ update params := by
  simp [forget, update]

theorem ClosingLeft.concat (closing : ClosingLeft params taken left)
    (other : step ≠ forget params) : ClosingLeft params (taken ++ [step]) left := by
  cases closing with
  | forgetting notYet onDisk => exact .forgetting (by simp [notYet, other.symm]) onDisk
  | reading forgotten onDisk => exact .reading (List.mem_append_left _ forgotten) onDisk

theorem OpeningLeft.concat {documents : UriTable OpenDocument}
    (opening : OpeningLeft params taken documents left) (other : step ≠ update params) :
    OpeningLeft params (taken ++ [step]) documents left := by
  cases opening with
  | updating notYet => exact .updating (by simp [notYet, other.symm])
  | keeping updated => exact .keeping (List.mem_append_left _ updated)
  | finished updated kept => exact .finished (List.mem_append_left _ updated) kept

theorem Owned.concat {index next : Index} (owned : Owned params taken index)
    (notForget : step ≠ forget params) (notUpdate : step ≠ update params)
    (sameOpen : next.isOpen params.uri = index.isOpen params.uri)
    (sameEntry : index.isOpen params.uri = true →
      next.symbols.get? params.uri = index.symbols.get? params.uri) :
    Owned params (taken ++ [step]) next where
  kept both := by
    obtain earlier | ⟨-, rfl⟩ := pair_sublist_concat.1 both
    · obtain ⟨isOpen, entry⟩ := owned.kept earlier
      exact ⟨sameOpen.trans isOpen, (sameEntry isOpen).trans entry⟩
    · exact absurd rfl notUpdate
  lost both := by
    obtain earlier | ⟨-, rfl⟩ := pair_sublist_concat.1 both
    · exact sameOpen.trans (owned.lost earlier)
    · exact absurd rfl notForget

theorem Owned.forget (notYet : Reopening.forget params ∉ taken) (index : Index) :
    Owned params (taken ++ [Reopening.forget params]) (index.forget params.uri) where
  kept both := by
    obtain earlier | ⟨forgotten, -⟩ := pair_sublist_concat.1 both
    · exact absurd (earlier.subset List.mem_cons_self) notYet
    · exact absurd forgotten notYet
  lost _ := by simp [Index.forget, Index.isOpen]

theorem Owned.update (notYet : Reopening.update params ∉ taken) (index : Index) :
    Owned params (taken ++ [Reopening.update params]) (index.update params.uri params.text) where
  kept _ := ⟨by simp [Index.update, Index.isOpen], by simp [Index.update]⟩
  lost both := by
    obtain earlier | ⟨updated, -⟩ := pair_sublist_concat.1 both
    · exact absurd (earlier.subset List.mem_cons_self) notYet
    · exact absurd updated notYet

theorem Sound.initial (server : Server) (params : OpenParams) (disk : Disk) :
    Sound params ((start server params).move (disk, .closing)) where
  closing := by
    refine .forgetting (by simp [move, start, HandlerStep.closing, Reopening.forget]) ?_
    intro step member
    obtain ⟨indexStep, isLookFor, rfl⟩ := List.mem_map.1 member
    obtain ⟨path, -, rfl⟩ := Option.map_eq_some_iff.1 (Option.mem_toList.1 isLookFor)
    trivial
  opening := .updating (by simp [move, start, HandlerStep.closing, Reopening.update])
  owned :=
    { kept both := absurd both.length_le (by simp [move, start, HandlerStep.closing])
      lost both := absurd both.length_le (by simp [move, start, HandlerStep.closing]) }

variable {state : Reopening}

theorem Sound.closes (sound : state.Sound params) (disk : Disk) :
    (state.move (disk, .closing)).Sound params := by
  obtain ⟨server, closing, opening, taken⟩ := state
  obtain ⟨closingLeft, openingLeft, owned⟩ := sound
  cases closingLeft with
  | forgetting notYet onDisk =>
    exact ⟨.reading (by simp [move]) onDisk, openingLeft.concat (forget_ne_update params),
      .forget notYet server.index⟩
  | reading forgotten onDisk =>
    cases closing with
    | nil => exact ⟨.reading forgotten onDisk, openingLeft, owned⟩
    | cons step rest =>
      obtain ⟨stepOnDisk, restOnDisk⟩ := List.forall_mem_cons.1 onDisk
      obtain ⟨sameDocuments, sameOpen, sameEntry⟩ := stepOnDisk.onServer server params.uri
      -- Reading leaves the owner of the document alone, however late it comes.
      have notForget : step ≠ Reopening.forget params := by
        rintro rfl
        exact stepOnDisk
      have notUpdate : step ≠ Reopening.update params := by
        rintro rfl
        exact stepOnDisk
      refine ⟨.reading (List.mem_append_left _ forgotten) ?_, ?_,
        owned.concat notForget notUpdate sameOpen sameEntry⟩
      · intro next member
        rcases List.mem_append.1 member with follows | isLeft
        · exact stepOnDisk.followUp disk next follows
        · exact restOnDisk next isLeft
      · change OpeningLeft params (taken ++ [step]) (step.onServer server).documents opening
        rw [sameDocuments]
        exact openingLeft.concat notUpdate

theorem Sound.opens (sound : state.Sound params) (disk : Disk) :
    (state.move (disk, .opening)).Sound params := by
  obtain ⟨server, closing, opening, taken⟩ := state
  obtain ⟨closingLeft, openingLeft, owned⟩ := sound
  cases openingLeft with
  | updating notYet =>
    exact ⟨closingLeft.concat (forget_ne_update params).symm, .keeping (by simp [move]),
      .update notYet server.index⟩
  | keeping updated =>
    refine ⟨closingLeft.concat (by simp [Reopening.forget]),
      .finished (List.mem_append_left _ updated) (UriTable.get?_insert_self _ _ _),
      owned.concat (by simp [Reopening.forget]) (by simp [Reopening.update]) rfl fun _ => rfl⟩
  | finished updated kept =>
    exact ⟨closingLeft, .finished updated kept, owned⟩

theorem Sound.run (sound : state.Sound params) (turns : List (Disk × Handler)) :
    (state.run turns).Sound params := by
  induction turns generalizing state with
  | nil => exact sound
  | cons turn turns ih =>
    obtain ⟨disk, handler⟩ := turn
    cases handler with
    | closing => exact ih (sound.closes disk)
    | opening => exact ih (sound.opens disk)

/-- What comes of a document that is closed and opened again, in whatever order the steps come
behind the one that takes it out of the open documents.  It is open with its new text.  The index
has it as open, with the symbols of that text, exactly if it forgot the document before it was
given the new text. -/
theorem reopened_iff_forgotten_first (server : Server) (params : OpenParams) (disk : Disk)
    (turns : List (Disk × Handler)) :
    let state := (start server params).run ((disk, .closing) :: turns)
    state.closing = [] → state.opening = [] →
      state.server.documents.get? params.uri = some params.document ∧
      (state.server.index.isOpen params.uri = true ↔
        [forget params, update params].Sublist state.taken) ∧
      (state.server.index.isOpen params.uri = true →
        state.server.index.symbols.get? params.uri = some (params.text.symbols params.uri)) := by
  intro state closed opened
  have sound : state.Sound params := (Sound.initial server params disk).run turns
  obtain ⟨closingLeft, openingLeft, owned⟩ := sound
  rw [closed] at closingLeft
  rw [opened] at openingLeft
  cases closingLeft with
  | reading forgotten _ =>
    cases openingLeft with
    | finished updated kept =>
      have order := pair_sublist_or forgotten updated (forget_ne_update params)
      have forgottenFirst : state.server.index.isOpen params.uri = true →
          [forget params, update params].Sublist state.taken := by
        intro isOpen
        refine order.resolve_right fun updatedFirst => ?_
        rw [owned.lost updatedFirst] at isOpen
        cases isOpen
      exact ⟨kept, ⟨forgottenFirst, fun first => (owned.kept first).1⟩,
        fun isOpen => (owned.kept (forgottenFirst isOpen)).2⟩

/-- The file is read before the document is opened again and put in behind that. -/
theorem reopened_while_file_is_read :
    let path := Path.ofString "/a.rs"
    let disk := ({} : Disk).write path (.file (Path.ofString "fn disk"))
    let uri : Uri := ⟨"file:///a.rs".toList⟩
    let params (text : String) : OpenParams :=
      { uri, languageId := "rust", version := 1, text := text.toList }
    let server := (({} : Server).openDocument (params "fn one")).1
    let turns : List (Disk × Handler) :=
      [(disk, .closing), (disk, .closing), (disk, .closing), (disk, .opening), (disk, .closing),
        (disk, .opening)]
    let state := (start server (params "fn two")).run ((disk, .closing) :: turns)
    state.closing = [] ∧ state.opening = [] ∧ state.server.index.isOpen uri = true ∧
      state.server.index.symbols.get? uri = some (Text.symbols "fn two".toList uri) := by
  intro path disk uri params server turns state
  have closed : state.closing = [] := by decide +kernel
  have opened : state.opening = [] := by decide +kernel
  have isOpen : state.server.index.isOpen uri = true := by decide +kernel
  have reopened := reopened_iff_forgotten_first server (params "fn two") disk turns
  rw [show (start server (params "fn two")).run ((disk, .closing) :: turns) = state from rfl]
    at reopened
  obtain ⟨-, -, entry⟩ := reopened closed opened
  exact ⟨closed, opened, isOpen, entry isOpen⟩

/-- The document is opened again before the index has forgotten it: it is open, but the index has
the symbols of the file in its place. -/
theorem reopened_document_lost :
    let path := Path.ofString "/a.rs"
    let disk := ({} : Disk).write path (.file (Path.ofString "fn disk"))
    let uri : Uri := ⟨"file:///a.rs".toList⟩
    let params (text : String) : OpenParams :=
      { uri, languageId := "rust", version := 1, text := text.toList }
    let server := (({} : Server).openDocument (params "fn one")).1
    let state := (start server (params "fn two")).run
      [(disk, .closing), (disk, .opening), (disk, .opening), (disk, .closing), (disk, .closing),
        (disk, .closing), (disk, .closing)]
    server.index.isOpen uri = true ∧ state.closing = [] ∧ state.opening = [] ∧
      state.server.documents.get? uri = some (params "fn two").document ∧
      state.server.index.isOpen uri = false ∧
      state.server.index.symbols.get? uri = some (Text.symbols "fn disk".toList uri) ∧
      Text.symbols "fn disk".toList uri ≠ Text.symbols "fn two".toList uri := by
  decide +kernel

end Reopening

end GotoDefinition
