import GotoDefinition.Server.Dispatch

/-!
# What one message can do

`Step` lists once everything that the handling of a message can do to the server, with
the phase in which it can happen and what is sent meanwhile.  Properties of all runs are
proved case by case over `Step` and carried over to every reachable server by
`Reachable.invariant`; no such proof looks at methods, parameters or identifiers.
-/

namespace GotoDefinition.Server

inductive Step (surroundings : Surroundings) (server : Server) : List Sent → Server → Prop where
  | start (params : StartParams) (fresh : server.phase = .uninitialized) :
      Step surroundings server [] { server.start surroundings params with phase := .running }
  | ready (running : server.phase = .running) :
      Step surroundings server (server.ready surroundings).2 (server.ready surroundings).1
  | configure (running : server.phase = .running) (settings : Json) :
      Step surroundings server (server.changeConfiguration surroundings.replies settings).2
        (server.changeConfiguration surroundings.replies settings).1
  | openDocument (running : server.phase = .running) (params : OpenParams) :
      Step surroundings server (server.openDocument params).2 (server.openDocument params).1
  | changeDocument (running : server.phase = .running) (params : ChangeParams) :
      Step surroundings server [] (server.changeDocument params)
  | closeDocument (running : server.phase = .running) (uri : Uri) :
      Step surroundings server (server.closeDocument surroundings.disk uri).2
        (server.closeDocument surroundings.disk uri).1
  /-- A request is answered.  At most a failure is logged. -/
  | answer (running : server.phase = .running) (searches : Nat) (sent : List Sent)
      (noRequest : ∀ message ∈ sent, message.isRequest = false) :
      Step surroundings server sent { server with searches }
  /-- The conversation goes on, or ends. -/
  | turn (phase : Phase)
      (onward : phase = server.phase ∨ phase = .exited ∨
        server.phase = .running ∧ phase = .shutDown) :
      Step surroundings server [] { server with phase }

theorem eq_ok_of_toOption {ε α : Type} {outcome : Except ε α} {value : α}
    (isValue : outcome.toOption = some value) : outcome = .ok value := by
  cases outcome with
  | error reason => cases isValue
  | ok found => rw [Option.some.inj isValue]

/-- Whether the symbols are searched in the server's own index. -/
def searchesOwnIndex (server : Server) : Bool :=
  server.source matches .workspace

theorem source_eq_of_searchesOwnIndex {server : Server} (own : server.searchesOwnIndex = true) :
    server.source = .workspace := by
  unfold searchesOwnIndex at own
  cases source_eq : server.source with
  | workspace => rfl
  | fixed symbols => rw [source_eq] at own; cases own
  | unavailable reason => rw [source_eq] at own; cases own

/-! ## Handlers -/

variable {surroundings : Surroundings} {server : Server}

theorem Step.same : Step surroundings server [] server :=
  .turn server.phase (.inl rfl)

theorem answerStart_step (fresh : server.phase = .uninitialized) (id : Json)
    (params : Option Json) :
    Step surroundings server (server.answerStart surroundings id params).sent
      (server.answerStart surroundings id params).server := by
  unfold answerStart
  split
  · exact .same
  · exact .start _ fresh

theorem isRequest_of_mem_logged {level : LogLevel} {text : String} {message : Sent}
    (member : message ∈ server.logged level text) : message.isRequest = false := by
  unfold logged at member
  split at member
  · obtain rfl := List.mem_singleton.1 member
    rfl
  · exact absurd member List.not_mem_nil

theorem answerDefinition_step (running : server.phase = .running) (id : Json)
    (params : Option Json) :
    Step surroundings server (server.answerDefinition id params).sent
      (server.answerDefinition id params).server := by
  unfold answerDefinition
  split
  · exact .same
  · simp only
    split
    · exact .answer running _ [] (fun message member => absurd member List.not_mem_nil)
    · exact .answer running _ _ (fun message member => isRequest_of_mem_logged member)

theorem answerSymbols_step (running : server.phase = .running) (id : Json)
    (params : Option Json) :
    Step surroundings server (server.answerSymbols id params).sent
      (server.answerSymbols id params).server := by
  unfold answerSymbols
  split
  · exact .same
  · simp only
    split
    · exact .answer running _ [] (fun message member => absurd member List.not_mem_nil)
    · exact .answer running _ [] (fun message member => absurd member List.not_mem_nil)

/-- A notification does what its handler does, or nothing if it is malformed. -/
theorem notified_step {α : Type} {decoder : Json.Decoder α} {params : Option Json}
    {handler : α → Server × List Sent}
    (handlerStep : ∀ decoded, Step surroundings server (handler decoded).2 (handler decoded).1) :
    Step surroundings server (server.notified decoder params handler).sent
      (server.notified decoder params handler).server := by
  unfold notified
  split
  · exact .same
  · exact handlerStep _

theorem handleRunning_step (running : server.phase = .running) (method : Method)
    (message : Message) :
    Step surroundings server (server.handleRunning surroundings method message).sent
      (server.handleRunning surroundings method message).server := by
  unfold handleRunning
  split
  · exact answerDefinition_step running _ _
  · exact answerSymbols_step running _ _
  · split
    · exact .same
    · exact .same
  · exact notified_step fun _ => .ready running
  · exact notified_step fun settings => .configure running settings
  · exact notified_step fun params => .openDocument running params
  · exact notified_step fun params => .changeDocument running params
  · exact notified_step fun uri => .closeDocument running uri
  · exact .same
  · exact .same

/-- Everything that the handling of a message does is a step. -/
theorem handle_step {message : Message} {outcome : Outcome}
    (handled : server.handle surroundings message = some outcome) :
    Step surroundings server outcome.sent outcome.server := by
  unfold handle at handled
  split at handled
  · cases handled
  · split at handled
    · obtain rfl := Option.some.inj handled
      exact .same
    · split at handled
      · obtain rfl := Option.some.inj handled
        exact .same
      · obtain rfl := Option.some.inj handled
        split
        · exact .same
        · exact .turn .exited (.inr (.inl rfl))
        -- Only the first request of a conversation starts it.
        · split
          next fresh _ => exact answerStart_step fresh _ _
          · exact .same
          · exact .same
        -- A shutdown counts even when its parameters are refused.
        · split
          next running =>
            simp only
            split
            · exact .turn .shutDown (.inr (.inr ⟨running, rfl⟩))
            · exact .turn .shutDown (.inr (.inr ⟨running, rfl⟩))
          next => exact .same
        · split
          next running => exact handleRunning_step running _ _
          next => exact .same

/-! ## Frames -/

section Frames

variable (server : Server) (replies : Replies)

theorem unregister_frame : ∃ registered, server.unregister.1 = { server with registered } := by
  unfold unregister
  split
  · exact ⟨false, rfl⟩
  · exact ⟨server.registered, rfl⟩

theorem register_frame :
    ∃ registered, (server.register replies).1 = { server with registered } := by
  unfold register
  split
  · exact ⟨server.registered, rfl⟩
  · exact ⟨_, rfl⟩

/-- Bringing the registration in line touches nothing but the flag. -/
theorem syncRegistration_frame :
    ∃ registered, (server.syncRegistration replies).1 = { server with registered } := by
  unfold syncRegistration
  split
  -- The flag goes down and perhaps up again; only its last value remains.
  · obtain ⟨withdrawn, unregistered⟩ := unregister_frame server
    obtain ⟨renewed, registered⟩ := register_frame server.unregister.1 replies
    refine ⟨renewed, ?_⟩
    change (server.unregister.1.register replies).1 = _
    rw [registered, unregistered]
  · exact ⟨server.registered, rfl⟩

theorem changeConfiguration_frame (settings : Json) :
    ∃ changed registered, (server.changeConfiguration replies settings).1 =
      { server with settings := changed, registered } := by
  unfold changeConfiguration
  split
  · exact ⟨server.settings, server.registered, rfl⟩
  next layer _ =>
    obtain ⟨registered, synced⟩ := syncRegistration_frame { server with
      settings := server.settings.merge
        (if layer = {} && server.connected then askedLayer replies else layer) } replies
    exact ⟨_, registered, synced⟩

/-- Being ready touches, beside the registration, the index, and that by a scan of the
workspace only. -/
theorem ready_frame (surroundings : Surroundings) :
    ∃ index registered, (server.ready surroundings).1 = { server with index, registered } ∧
      (index = server.index ∨ ∃ root, server.root = some root ∧
        index = (server.index.indexWorkspace surroundings.disk root
          server.settings.maxFileSize).1) := by
  obtain ⟨registered, synced⟩ := syncRegistration_frame server surroundings.replies
  unfold ready
  simp only [synced]
  split
  next root isRoot _ => exact ⟨_, registered, rfl, .inr ⟨root, isRoot, rfl⟩⟩
  next => exact ⟨server.index, registered, rfl, .inl rfl⟩

end Frames

/-! ## Runs -/

/-- The servers that any sequence of messages leads to.  Each message may find another disk
and other replies. -/
inductive Reachable : Server → Prop where
  | connected (overrides : Layer) (compiler : PatternCompiler) :
      Reachable { connectedTo overrides with compiler }
  | alone (source : SymbolSource) (compiler : PatternCompiler) :
      Reachable { withoutClient source with compiler }
  | handled {server : Server} {outcome : Outcome} (reachable : Reachable server)
      (surroundings : Surroundings) (message : Message)
      (handled : server.handle surroundings message = some outcome) : Reachable outcome.server

theorem Reachable.invariant {motive : Server → Prop}
    (connected : ∀ overrides compiler, motive { connectedTo overrides with compiler })
    (alone : ∀ source compiler, motive { withoutClient source with compiler })
    (preserved : ∀ surroundings server sent next, motive server →
      Step surroundings server sent next → motive next)
    (reachable : Reachable server) : motive server := by
  induction reachable with
  | connected overrides compiler => exact connected overrides compiler
  | alone source compiler => exact alone source compiler
  | handled reachable surroundings message handled ih =>
    exact preserved surroundings _ _ _ ih (handle_step handled)

/-- The server after some messages, none if one of them comes after the exit. -/
def converse (server : Server) : List (Surroundings × Message) → Option Server
  | [] => some server
  | (surroundings, message) :: messages =>
    (server.handle surroundings message).bind fun outcome => outcome.server.converse messages

theorem Reachable.converse {messages : List (Surroundings × Message)} {next : Server}
    (reachable : Reachable server) (conversation : server.converse messages = some next) :
    Reachable next := by
  induction messages generalizing server with
  | nil =>
    obtain rfl := Option.some.inj conversation
    exact reachable
  | cons first messages ih =>
    obtain ⟨surroundings, message⟩ := first
    obtain ⟨outcome, handled, rest⟩ := Option.bind_eq_some_iff.1 conversation
    exact ih (.handled reachable surroundings message handled) rest

end GotoDefinition.Server
