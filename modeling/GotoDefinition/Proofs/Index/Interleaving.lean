import GotoDefinition.Proofs.Index.History

/-!
# Operations on an index at the same time

Each operation on an index is a sequence of steps, and nothing interrupts a step: a document
is taken over or forgotten, a file is looked for or read, and what was read is put in unless
its document is open.  Any number of operations may be under way at once, their steps come
in any order, and the disk may change at any time, so that a file may be put in long after
it was read.  `run_uninterrupted` says that an operation whose steps follow one another does
what the operation of the index does, and `open_documents_survive_interleaving` what holds
whatever the order.
-/

namespace GotoDefinition

/-- What is done at one go. -/
inductive IndexStep where
  | update (uri : Uri) (content : Text)
  | forget (uri : Uri)
  | lookFor (path : Path)
  | read (path : Path)
  | commit (scan : Scan)

namespace IndexStep

/-- The index after a step. -/
def onIndex (index : Index) : IndexStep → Index
  | .update uri content => index.update uri content
  | .forget uri => index.forget uri
  | .lookFor _ => index
  | .read _ => index
  | .commit scan => index.commit scan

/-- What an operation goes on with behind a step, by the disk that the step finds. -/
def followUp (disk : Disk) : IndexStep → List IndexStep
  | .lookFor path => if disk.isFile path then [.read path] else []
  | .read path =>
    match Index.scanFile disk path with
    | .ok (some scan) => [.commit scan]
    | _ => []
  | .update _ _ => []
  | .forget _ => []
  | .commit _ => []

end IndexStep

/-- What may be asked of an index.  A scan of a workspace indexes one file after the other, and
since the disk may change under it, they may be any. -/
inductive IndexCall where
  | update (uri : Uri) (content : Text)
  | close (uri : Uri)
  | indexFiles (paths : List Path)

namespace IndexCall

/-- The steps that a call begins with. -/
def steps : IndexCall → List IndexStep
  | .update uri content => [.update uri content]
  | .close uri => .forget uri :: (uri.toFilePath?.map .lookFor).toList
  | .indexFiles paths => paths.map .read

/-- The index after a call that is alone with it. -/
def alone (disk : Disk) (index : Index) : IndexCall → Index
  | .update uri content => index.update uri content
  | .close uri => index.close disk uri
  | .indexFiles paths => paths.foldl (fun index path => index.indexFileOrSkip disk path) index

end IndexCall

/-- An index that several operations work on. -/
structure SharedIndex where
  disk : Disk
  index : Index := {}
  /-- What is left to do of each operation that has begun. -/
  underWay : List (List IndexStep) := []
  /-- The steps so far, each with the disk that it found, the oldest first. -/
  taken : List (Disk × IndexStep) := []

/-- What happens next. -/
inductive IndexMove where
  | start (call : IndexCall)
  /-- One of the operations under way takes its next step, if it has one. -/
  | advance (position : Nat)
  | changeDisk (disk : Disk)

namespace SharedIndex

def move (state : SharedIndex) : IndexMove → SharedIndex
  | .start call => { state with underWay := state.underWay ++ [call.steps] }
  | .advance position =>
    match state.underWay[position]? with
    | some (step :: rest) =>
      { state with
        index := step.onIndex state.index
        underWay := state.underWay.set position (step.followUp state.disk ++ rest)
        taken := state.taken ++ [(state.disk, step)] }
    | _ => state
  | .changeDisk disk => { state with disk }

def run (state : SharedIndex) (moves : List IndexMove) : SharedIndex :=
  moves.foldl move state

end SharedIndex

/-! ## Operations without interruption -/

/-- What steps do to an index when they follow one another. -/
inductive Finishes (disk : Disk) : Index → List IndexStep → Index → Prop where
  | done (index : Index) : Finishes disk index [] index
  | step {index last : Index} {step : IndexStep} {rest : List IndexStep}
      (finishes : Finishes disk (step.onIndex index) (step.followUp disk ++ rest) last) :
      Finishes disk index (step :: rest) last

variable {disk : Disk} {index last : Index} {rest : List IndexStep}

theorem Finishes.read {path : Path}
    (finishes : Finishes disk (index.indexFileOrSkip disk path) rest last) :
    Finishes disk index (.read path :: rest) last := by
  refine .step ?_
  unfold Index.indexFileOrSkip Index.indexFile at finishes
  simp only [IndexStep.onIndex, IndexStep.followUp]
  cases scanned : Index.scanFile disk path with
  | error reason =>
    rw [scanned] at finishes
    exact finishes
  | ok found =>
    rw [scanned] at finishes
    cases found with
    | none => exact finishes
    | some scan => exact .step finishes

theorem Finishes.call (call : IndexCall) (disk : Disk) (index : Index) :
    Finishes disk index call.steps (call.alone disk index) := by
  cases call with
  | update uri content => exact .step (.done _)
  | close uri =>
    refine .step ?_
    simp only [IndexStep.followUp, IndexStep.onIndex, List.nil_append, IndexCall.alone, Index.close]
    cases uri.toFilePath? with
    | none => exact .done _
    | some path =>
      refine .step ?_
      simp only [IndexStep.followUp, IndexStep.onIndex, List.append_nil]
      split
      · exact .read (.done _)
      · exact .done _
  | indexFiles paths =>
    simp only [IndexCall.steps, IndexCall.alone]
    induction paths generalizing index with
    | nil => exact .done _
    | cons path paths ih => exact .read (ih _)

namespace SharedIndex

variable {others : List (List IndexStep)} {steps : List IndexStep}

theorem move_advance (step : IndexStep) (rest : List IndexStep) (taken : List (Disk × IndexStep)) :
    move { disk, index, underWay := others ++ [step :: rest], taken } (.advance others.length) =
      { disk, index := step.onIndex index
        underWay := others ++ [step.followUp disk ++ rest]
        taken := taken ++ [(disk, step)] } := by
  simp [move]

theorem run_of_finishes (others : List (List IndexStep))
    (finishes : Finishes disk index steps last) (taken : List (Disk × IndexStep)) :
    ∃ count later, run { disk, index, underWay := others ++ [steps], taken }
        (List.replicate count (.advance others.length)) =
      { disk, index := last, underWay := others ++ [[]], taken := later } := by
  induction finishes generalizing taken with
  | done index => exact ⟨0, taken, rfl⟩
  | @step index last step rest finishes ih =>
    obtain ⟨count, later, finished⟩ := ih (taken ++ [(disk, step)])
    refine ⟨count + 1, later, ?_⟩
    rw [List.replicate_succ, run, List.foldl_cons, move_advance]
    exact finished

/-- A call whose steps follow one another does what it does alone, whatever else is under way. -/
theorem run_uninterrupted (state : SharedIndex) (call : IndexCall) :
    ∃ count later,
      state.run (.start call :: List.replicate count (.advance state.underWay.length)) =
        { disk := state.disk, index := call.alone state.disk state.index
          underWay := state.underWay ++ [[]], taken := later } :=
  run_of_finishes state.underWay (Finishes.call call state.disk state.index) state.taken

end SharedIndex

/-- The files that a scan of a workspace comes by while the disk stays as it is. -/
def workspaceFiles (disk : Disk) (root : Path) (maxFileSize : Nat) : List Path :=
  ((Ignore.walk disk root).filter fun visit => visit.content.length ≤ maxFileSize).map
    Ignore.Visit.path

/-- A scan of a workspace is a call for these files. -/
theorem alone_workspaceFiles (disk : Disk) (index : Index) (root : Path) (maxFileSize : Nat) :
    (IndexCall.indexFiles (workspaceFiles disk root maxFileSize)).alone disk index =
      (index.indexWorkspace disk root maxFileSize).1 := by
  rw [Index.indexWorkspace_eq_replay]
  simp only [IndexCall.alone, workspaceFiles, Index.workspaceEvents]
  induction (Ignore.walk disk root).filter fun visit => visit.content.length ≤ maxFileSize
    generalizing index with
  | nil => rfl
  | cons visit visits ih =>
    rw [List.map_cons, List.foldl_cons, ih, Index.indexFileOrSkip_eq_replay, ← Index.replay_append]
    cases event : Index.readEvent? disk visit.path <;> simp [event]

/-! ## Operations in any order -/

/-- Whether the client owns a document: it has updated it and not forgotten it since. -/
def ownedAfter (taken : List (Disk × IndexStep)) (uri : Uri) : Bool :=
  (taken.filterMap fun
    | (_, .update other _) => if other = uri then some true else none
    | (_, .forget other) => if other = uri then some false else none
    | _ => none).getLast?.getD false

/-- The text of the last update of a document. -/
def latestUpdate? (taken : List (Disk × IndexStep)) (uri : Uri) : Option Text :=
  (taken.filterMap fun
    | (_, .update other content) => if other = uri then some content else none
    | _ => none).getLast?

/-- A text was once read from a path that has the URI. -/
def ReadOnce (taken : List (Disk × IndexStep)) (uri : Uri) (content : Text) : Prop :=
  ∃ disk path bytes, (disk, .read path) ∈ taken ∧ disk.read path = .ok bytes ∧
    Text.ofUtf8? bytes = some content ∧ Uri.ofFilePath? path = some uri

/-- The symbols are those of a text that was once read. -/
def ScannedOnce (taken : List (Disk × IndexStep)) (uri : Uri) (symbols : List Symbol) : Prop :=
  ∃ content, ReadOnce taken uri content ∧ symbols = content.symbols uri

variable {taken : List (Disk × IndexStep)}

theorem ownedAfter_concat (disk : Disk) (step : IndexStep) (uri : Uri) :
    ownedAfter (taken ++ [(disk, step)]) uri =
      match step with
      | .update other _ => decide (other = uri) || ownedAfter taken uri
      | .forget other => !decide (other = uri) && ownedAfter taken uri
      | _ => ownedAfter taken uri := by
  unfold ownedAfter
  rw [List.filterMap_append]
  cases step with
  | update other content => by_cases same : other = uri <;> simp [same]
  | forget other => by_cases same : other = uri <;> simp [same]
  | lookFor | read | commit => simp

theorem latestUpdate?_concat (disk : Disk) (step : IndexStep) (uri : Uri) :
    latestUpdate? (taken ++ [(disk, step)]) uri =
      match step with
      | .update other content => if other = uri then some content else latestUpdate? taken uri
      | _ => latestUpdate? taken uri := by
  unfold latestUpdate?
  rw [List.filterMap_append]
  cases step with
  | update other content => by_cases same : other = uri <;> simp [same]
  | forget | lookFor | read | commit => simp

theorem ScannedOnce.concat {uri : Uri} {symbols : List Symbol}
    (scanned : ScannedOnce taken uri symbols) (entry : Disk × IndexStep) :
    ScannedOnce (taken ++ [entry]) uri symbols := by
  obtain ⟨content, ⟨disk, path, bytes, member, wasRead⟩, symbols_eq⟩ := scanned
  exact ⟨content, ⟨disk, path, bytes, List.mem_append_left _ member, wasRead⟩, symbols_eq⟩

theorem ScannedOnce.read {path : Path} {scan : Scan}
    (scanned : Index.scanFile disk path = .ok (some scan)) :
    ScannedOnce (taken ++ [(disk, .read path)]) scan.uri scan.symbols := by
  unfold Index.scanFile at scanned
  split at scanned
  · cases scanned
  next bytes readable =>
    unfold Index.scanBytes at scanned
    split at scanned
    · cases scanned
    next content isText =>
      obtain ⟨uri, isUri, rfl⟩ := Option.map_eq_some_iff.1 (Except.ok.inj scanned)
      refine ⟨content, ⟨disk, path, bytes, ?_, readable, isText, isUri⟩, rfl⟩
      exact List.mem_append_right _ (List.mem_singleton_self _)

namespace IndexStep

/-- The steps that may change what an index says about a URI. -/
def Concerns (uri : Uri) : IndexStep → Prop
  | .update other _ => other = uri
  | .forget other => other = uri
  | .lookFor _ => False
  | .read _ => False
  | .commit scan => scan.uri = uri

variable {uri : Uri} {step : IndexStep}

theorem isOpen_onIndex (index : Index) (step : IndexStep) (uri : Uri) :
    (step.onIndex index).isOpen uri =
      match step with
      | .update other _ => decide (other = uri) || index.isOpen uri
      | .forget other => !decide (other = uri) && index.isOpen uri
      | _ => index.isOpen uri := by
  cases step with
  | update other content => exact Index.isOpen_apply index (.updated other content) uri
  | forget other => exact Index.isOpen_apply index (.closed other) uri
  | lookFor | read => rfl
  | commit scan =>
    simp only [onIndex, Index.commit]
    split <;> rfl

theorem get?_onIndex (index : Index) (step : IndexStep) (uri : Uri) :
    (step.onIndex index).symbols.get? uri =
      match step with
      | .update other content =>
        if other = uri then some (content.symbols uri) else index.symbols.get? uri
      | .forget other => if other = uri then none else index.symbols.get? uri
      | .commit scan =>
        if scan.uri = uri ∧ index.isOpen uri = false then some scan.symbols
        else index.symbols.get? uri
      | _ => index.symbols.get? uri := by
  cases step with
  | update other content => exact Index.get?_apply index (.updated other content) uri
  | forget other => exact Index.get?_apply index (.closed other) uri
  | lookFor | read => rfl
  | commit scan =>
    simp only [onIndex, Index.commit]
    by_cases same : scan.uri = uri
    · subst same
      cases index.isOpen scan.uri <;> simp
    · split <;> simp [same, Ne.symm same]

theorem frame (unconcerned : ¬ step.Concerns uri) (disk : Disk) :
    (step.onIndex index).isOpen uri = index.isOpen uri ∧
      (step.onIndex index).symbols.get? uri = index.symbols.get? uri ∧
      latestUpdate? (taken ++ [(disk, step)]) uri = latestUpdate? taken uri := by
  rw [isOpen_onIndex, get?_onIndex, latestUpdate?_concat]
  cases step with
  | update | forget | commit =>
    simp only [Concerns] at unconcerned
    simp [unconcerned]
  | lookFor | read => exact ⟨rfl, rfl, rfl⟩

end IndexStep

/-- What an index says about a URI is accounted for by the steps so far. -/
structure Accounted (taken : List (Disk × IndexStep)) (index : Index) (uri : Uri) : Prop where
  isOpen_eq : index.isOpen uri = ownedAfter taken uri
  opened : index.isOpen uri = true → ∃ content,
    latestUpdate? taken uri = some content ∧ index.symbols.get? uri = some (content.symbols uri)
  unopened : ∀ symbols, index.isOpen uri = false → index.symbols.get? uri = some symbols →
    ScannedOnce taken uri symbols

/-- A step leaves everything accounted for, if what it puts in was once read. -/
theorem Accounted.concat {uri : Uri} (accounted : Accounted taken index uri) (disk : Disk)
    (step : IndexStep)
    (wasRead : ∀ scan, step = .commit scan → ScannedOnce taken scan.uri scan.symbols) :
    Accounted (taken ++ [(disk, step)]) (step.onIndex index) uri := by
  have isOpen_eq : (step.onIndex index).isOpen uri = ownedAfter (taken ++ [(disk, step)]) uri := by
    rw [ownedAfter_concat, IndexStep.isOpen_onIndex, accounted.isOpen_eq]
  by_cases concerned : step.Concerns uri
  · cases step with
    | update other content =>
      obtain rfl := concerned
      refine ⟨isOpen_eq, fun _ => ⟨content, ?_⟩, ?_⟩
      · simp [latestUpdate?_concat, IndexStep.get?_onIndex]
      · intro symbols notOpen
        simp [IndexStep.isOpen_onIndex] at notOpen
    | forget other =>
      obtain rfl := concerned
      refine ⟨isOpen_eq, ?_, ?_⟩
      · intro isOpen
        simp [IndexStep.isOpen_onIndex] at isOpen
      · intro symbols _ entry
        simp [IndexStep.get?_onIndex] at entry
    | commit scan =>
      obtain rfl := concerned
      refine ⟨isOpen_eq, ?_, ?_⟩
      · -- An open document turns away whatever was read.
        intro isOpen
        rw [IndexStep.isOpen_onIndex] at isOpen
        simpa [latestUpdate?_concat, IndexStep.get?_onIndex, isOpen] using accounted.opened isOpen
      · intro symbols notOpen entry
        rw [IndexStep.isOpen_onIndex] at notOpen
        simp only [IndexStep.get?_onIndex, notOpen, and_self, if_true, Option.some.injEq] at entry
        rw [← entry]
        exact (wasRead scan rfl).concat _
    | lookFor | read => cases concerned
  · obtain ⟨sameOpen, sameEntry, sameUpdate⟩ := IndexStep.frame concerned disk
    refine ⟨isOpen_eq, ?_, ?_⟩
    · rw [sameOpen, sameEntry, sameUpdate]
      exact accounted.opened
    · rw [sameOpen, sameEntry]
      intro symbols notOpen entry
      exact (accounted.unopened symbols notOpen entry).concat _

namespace SharedIndex

/-- The index is accounted for, and so is everything that waits to be put into it. -/
structure Sound (state : SharedIndex) : Prop where
  accounted : ∀ uri, Accounted state.taken state.index uri
  pending : ∀ steps ∈ state.underWay, ∀ scan, .commit scan ∈ steps →
    ScannedOnce state.taken scan.uri scan.symbols

theorem Sound.initial (disk : Disk) : Sound { disk } where
  accounted uri := by
    refine ⟨rfl, ?_, ?_⟩
    · intro isOpen
      exact absurd isOpen Bool.false_ne_true
    · intro symbols notOpen entry
      exact absurd entry (Option.some_ne_none symbols).symm
  pending := by
    intro steps member
    exact absurd member List.not_mem_nil

theorem commit_not_mem_steps (call : IndexCall) (scan : Scan) : .commit scan ∉ call.steps := by
  cases call with
  | update uri content => simp [IndexCall.steps]
  | close uri => simp [IndexCall.steps]
  | indexFiles paths => simp [IndexCall.steps]

/-- Only reading a file makes something to be put in. -/
theorem scannedOnce_of_mem_followUp {step : IndexStep} {scan : Scan}
    (member : .commit scan ∈ step.followUp disk) :
    ScannedOnce (taken ++ [(disk, step)]) scan.uri scan.symbols := by
  cases step with
  | update | forget | commit => exact absurd member List.not_mem_nil
  | lookFor path =>
    simp only [IndexStep.followUp] at member
    split at member <;> simp at member
  | read path =>
    simp only [IndexStep.followUp] at member
    split at member
    next found scanned =>
      obtain rfl := IndexStep.commit.inj (List.mem_singleton.1 member)
      exact ScannedOnce.read scanned
    next => exact absurd member List.not_mem_nil

/-- Whichever operation goes on, and whatever becomes of the disk. -/
theorem Sound.move {state : SharedIndex} (sound : state.Sound) (next : IndexMove) :
    (state.move next).Sound := by
  cases next with
  | changeDisk disk => exact ⟨sound.accounted, sound.pending⟩
  | start call =>
    refine ⟨sound.accounted, ?_⟩
    intro steps member scan due
    obtain old | new := List.mem_append.1 member
    · exact sound.pending steps old scan due
    · obtain rfl := List.mem_singleton.1 new
      exact absurd due (commit_not_mem_steps call scan)
  | advance position =>
    simp only [SharedIndex.move]
    split
    next step rest found =>
      have chosen : step :: rest ∈ state.underWay := List.mem_of_getElem? found
      have wasRead : ∀ scan, step = .commit scan →
          ScannedOnce state.taken scan.uri scan.symbols := by
        rintro scan rfl
        exact sound.pending _ chosen scan List.mem_cons_self
      refine ⟨fun uri => (sound.accounted uri).concat state.disk step wasRead, ?_⟩
      -- What waits now waited before, or was read by this very step.
      intro steps member scan due
      obtain other | rfl := List.mem_or_eq_of_mem_set member
      · exact (sound.pending steps other scan due).concat _
      · obtain new | left := List.mem_append.1 due
        · exact scannedOnce_of_mem_followUp new
        · exact (sound.pending _ chosen scan (List.mem_cons_of_mem _ left)).concat _
    next => exact sound

theorem Sound.run {state : SharedIndex} (sound : state.Sound) (moves : List IndexMove) :
    (state.run moves).Sound := by
  induction moves generalizing state with
  | nil => exact sound
  | cons next moves ih => exact ih (sound.move next)

/-- Whatever operations are under way and in whatever order their steps come: a document is open
as long as the client owns it and has the symbols of the text of its latest update, and every
other entry has those of a text that was once read from a path of its URI. -/
theorem open_documents_survive_interleaving (disk : Disk) (moves : List IndexMove) (uri : Uri) :
    let state := run { disk } moves
    state.index.isOpen uri = ownedAfter state.taken uri ∧
      (state.index.isOpen uri = true → ∃ content, latestUpdate? state.taken uri = some content ∧
          state.index.symbols.get? uri = some (content.symbols uri)) ∧
      ∀ symbols, state.index.isOpen uri = false → state.index.symbols.get? uri = some symbols →
        ∃ content, ReadOnce state.taken uri content ∧ symbols = content.symbols uri := by
  intro state
  have sound : state.Sound := (Sound.initial disk).run moves
  obtain ⟨isOpen_eq, opened, unopened⟩ := sound.accounted uri
  exact ⟨isOpen_eq, opened, unopened⟩

/-- Two files are read; then the document of one is opened and the disk is wiped, and only then
is what was read put in. -/
theorem open_documents_survive_late_commits :
    let mine : Uri := ⟨"file:///a.rs".toList⟩
    let other : Uri := ⟨"file:///b.rs".toList⟩
    let disk := (({} : Disk).write (Path.ofString "/a.rs") (.file (Path.ofString "fn disk"))).write
      (Path.ofString "/b.rs") (.file (Path.ofString "fn disk"))
    let moves : List IndexMove :=
      [.start (.indexFiles [Path.ofString "/a.rs"]), .start (.indexFiles [Path.ofString "/b.rs"]),
        .advance 0, .advance 1, .start (.update mine "fn mine".toList), .advance 2,
        .changeDisk {}, .advance 0, .advance 1]
    let state := run { disk } moves
    state.index.isOpen mine = true ∧
      state.index.symbols.get? mine = some (Text.symbols "fn mine".toList mine) ∧
      state.index.isOpen other = false ∧ state.disk.isFile (Path.ofString "/b.rs") = false ∧
      ∃ content, ReadOnce state.taken other content ∧
        state.index.symbols.get? other = some (content.symbols other) := by
  intro mine other disk moves state
  have owned : ownedAfter state.taken mine = true := by decide +kernel
  have unowned : ownedAfter state.taken other = false := by decide +kernel
  have latest : latestUpdate? state.taken mine = some "fn mine".toList := by decide +kernel
  have found : (state.index.symbols.get? other).isSome = true := by decide +kernel
  have wiped : state.disk.isFile (Path.ofString "/b.rs") = false := by decide +kernel
  obtain ⟨symbols, entry⟩ := Option.isSome_iff_exists.1 found
  have accounted := open_documents_survive_interleaving disk moves
  rw [show run { disk } moves = state from rfl] at accounted
  have isOpen := (accounted mine).1.trans owned
  have notOpen := (accounted other).1.trans unowned
  obtain ⟨content, isLatest, holds⟩ := (accounted mine).2.1 isOpen
  obtain rfl := Option.some.inj (latest.symm.trans isLatest)
  obtain ⟨content, wasRead, rfl⟩ := (accounted other).2.2 symbols notOpen entry
  exact ⟨isOpen, holds, notOpen, wiped, content, wasRead, entry⟩

end SharedIndex

end GotoDefinition
