import GotoDefinition.Proofs.Server.Step

/-!
# Sessions

A session is a conversation together with everything that was met and sent in it.  Two
kinds of messages decide about the settings: the request that starts the conversation and
the notification of new settings.  `handle_of_startParams?` and `handle_of_newSettings?` say
what comes of each, and `unconfigured_of_handle` that no other message touches the settings
or what the server knows of its client.
-/

namespace GotoDefinition.Server

/-- One handled message: the server that got it, what it met, and what came of it. -/
structure Exchange where
  before : Server
  surroundings : Surroundings
  message : Message
  outcome : Outcome

/-- The servers at which a session begins. -/
inductive Fresh : Server → Prop where
  | connected (overrides : Layer) (compiler : PatternCompiler) :
      Fresh { connectedTo overrides with compiler }
  | alone (source : SymbolSource) (compiler : PatternCompiler) :
      Fresh { withoutClient source with compiler }

/-- The sessions that begin at `origin`, with the server at the end.  The latest exchange
comes last, and each message may find another disk and other replies. -/
inductive Session (origin : Server) : List Exchange → Server → Prop where
  | begun : Session origin [] origin
  | handled {exchanges : List Exchange} {server : Server} {outcome : Outcome}
      (session : Session origin exchanges server) (surroundings : Surroundings)
      (message : Message) (handled : server.handle surroundings message = some outcome) :
      Session origin (exchanges ++ [{ before := server, surroundings, message, outcome }])
        outcome.server

/-! ## Messages that decide about the settings -/

namespace Exchange

/-- The parameters of the request that starts the conversation.  It has to be well-formed
and the first that is. -/
def startParams? (exchange : Exchange) : Option StartParams :=
  if exchange.before.phase = .uninitialized ∧ exchange.message.method = "initialize" ∧
      exchange.message.id.isSome then
    (readParams StartParams.decode exchange.message.params).toOption
  else none

/-- The settings that a well-formed notification brings to a running conversation. -/
def newSettings? (exchange : Exchange) : Option Json :=
  if exchange.before.phase = .running ∧
      exchange.message.method = "workspace/didChangeConfiguration" ∧
      exchange.message.id = none then
    (readParams decodeConfiguration exchange.message.params).toOption
  else none

end Exchange

theorem Method.eq_of_ofName?_start {name : String} (isStart : ofName? name = some .start) :
    name = "initialize" := by
  unfold ofName? at isStart
  split at isStart
  case h_1 => rfl
  case h_11 =>
    split at isStart
    · cases isStart
    · split at isStart <;> cases isStart
  all_goals cases isStart

theorem Method.eq_of_ofName?_configuration {name : String}
    (isConfiguration : ofName? name = some .configuration) :
    name = "workspace/didChangeConfiguration" := by
  unfold ofName? at isConfiguration
  split at isConfiguration
  case h_7 => rfl
  case h_11 =>
    split at isConfiguration
    · cases isConfiguration
    · split at isConfiguration <;> cases isConfiguration
  all_goals cases isConfiguration

/-! ## What a message does to the settings -/

/-- What is left alone by a message that neither starts the conversation nor brings settings. -/
structure Unconfigured (before after : Server) : Prop where
  settings_eq : after.settings = before.settings
  support_eq : after.support = before.support
  onward : after.phase = before.phase ∨ after.phase = .exited ∨
    before.phase = .running ∧ after.phase = .shutDown

section

variable {surroundings : Surroundings} {server : Server}

theorem Unconfigured.refl : Unconfigured server server :=
  ⟨rfl, rfl, .inl rfl⟩

theorem ready_unconfigured : Unconfigured server (server.ready surroundings).1 := by
  obtain ⟨index, registered, next_eq, -⟩ := ready_frame server surroundings
  rw [next_eq]
  exact ⟨rfl, rfl, .inl rfl⟩

theorem changeDocument_unconfigured (params : ChangeParams) :
    Unconfigured server (server.changeDocument params) := by
  unfold changeDocument
  split
  · exact ⟨rfl, rfl, .inl rfl⟩
  · exact .refl

theorem answerDefinition_unconfigured (id : Json) (params : Option Json) :
    Unconfigured server (server.answerDefinition id params).server := by
  unfold answerDefinition
  split
  · exact .refl
  · simp only
    split
    · exact ⟨rfl, rfl, .inl rfl⟩
    · exact ⟨rfl, rfl, .inl rfl⟩

theorem answerSymbols_unconfigured (id : Json) (params : Option Json) :
    Unconfigured server (server.answerSymbols id params).server := by
  unfold answerSymbols
  split
  · exact .refl
  · simp only
    split
    · exact ⟨rfl, rfl, .inl rfl⟩
    · exact ⟨rfl, rfl, .inl rfl⟩

theorem notified_unconfigured {α : Type} {decoder : Json.Decoder α} {params : Option Json}
    {handler : α → Server × List Sent}
    (handlerKeeps : ∀ decoded, readParams decoder params = .ok decoded →
      Unconfigured server (handler decoded).1) :
    Unconfigured server (server.notified decoder params handler).server := by
  unfold notified
  split
  · exact .refl
  next decoded isDecoded => exact handlerKeeps decoded isDecoded

theorem handleRunning_unconfigured {method : Method} {message : Message}
    (noSettings : method = .configuration → message.id = none →
      (readParams decodeConfiguration message.params).toOption = none) :
    Unconfigured server (server.handleRunning surroundings method message).server := by
  unfold handleRunning
  split
  · exact answerDefinition_unconfigured _ _
  · exact answerSymbols_unconfigured _ _
  · split
    · exact .refl
    · exact .refl
  · exact notified_unconfigured fun _ _ => ready_unconfigured
  next noId =>
    refine notified_unconfigured fun settings isSettings => ?_
    have none_eq := noSettings rfl noId
    rw [isSettings] at none_eq
    cases none_eq
  · exact notified_unconfigured fun _ _ => ⟨rfl, rfl, .inl rfl⟩
  · exact notified_unconfigured fun params _ => changeDocument_unconfigured params
  · exact notified_unconfigured fun _ _ => ⟨rfl, rfl, .inl rfl⟩
  · exact .refl
  · exact .refl

end

variable {exchange : Exchange}

theorem handle_of_startParams? {params : StartParams}
    (starts : exchange.startParams? = some params)
    (handled : exchange.before.handle exchange.surroundings exchange.message =
      some exchange.outcome) :
    exchange.before.phase = .uninitialized ∧
      exchange.outcome.server =
        { exchange.before.start exchange.surroundings params with phase := .running } := by
  unfold Exchange.startParams? at starts
  split at starts
  next isFirst =>
    obtain ⟨fresh, isStart, hasId⟩ := isFirst
    obtain ⟨id, isId⟩ := Option.isSome_iff_exists.1 hasId
    refine ⟨fresh, ?_⟩
    have outside : "$/".toList.isPrefixOf "initialize".toList = false := by decide
    simp only [handle, fresh, isStart, isId, outside, Method.ofName?, answerStart,
      eq_ok_of_toOption starts] at handled
    rw [← Option.some.inj handled]
    rfl
  next => cases starts

theorem handle_of_newSettings? {settings : Json}
    (configures : exchange.newSettings? = some settings)
    (handled : exchange.before.handle exchange.surroundings exchange.message =
      some exchange.outcome) :
    exchange.before.phase = .running ∧
      exchange.outcome.server = (exchange.before.changeConfiguration
        exchange.surroundings.replies settings).1 ∧
      exchange.outcome.sent = (exchange.before.changeConfiguration
        exchange.surroundings.replies settings).2 := by
  unfold Exchange.newSettings? at configures
  split at configures
  next isNotification =>
    obtain ⟨running, isConfiguration, noId⟩ := isNotification
    refine ⟨running, ?_⟩
    have outside : "$/".toList.isPrefixOf "workspace/didChangeConfiguration".toList = false := by
      decide
    simp only [handle, running, isConfiguration, noId, outside, Method.ofName?, handleRunning,
      notified, eq_ok_of_toOption configures] at handled
    rw [← Option.some.inj handled]
    exact ⟨rfl, rfl⟩
  next => cases configures

/-- No other message touches the settings. -/
theorem unconfigured_of_handle (noStart : exchange.startParams? = none)
    (noSettings : exchange.newSettings? = none)
    (handled : exchange.before.handle exchange.surroundings exchange.message =
      some exchange.outcome) :
    Unconfigured exchange.before exchange.outcome.server := by
  unfold handle at handled
  split at handled
  · cases handled
  · split at handled
    · rw [← Option.some.inj handled]
      exact .refl
    · split at handled
      · rw [← Option.some.inj handled]
        exact .refl
      · rw [← Option.some.inj handled]
        split
        · exact .refl
        · exact ⟨rfl, rfl, .inr (.inl rfl)⟩
        next isStart =>
          have name_eq := Method.eq_of_ofName?_start isStart
          split
          next id fresh isId =>
            simp only [Exchange.startParams?, fresh, name_eq, isId, Option.isSome_some,
              and_self, if_true] at noStart
            unfold answerStart
            split
            · exact .refl
            next params isParams =>
              rw [isParams] at noStart
              cases noStart
          · exact .refl
          · exact .refl
        · split
          next running =>
            simp only
            split
            · exact ⟨rfl, rfl, .inr (.inr ⟨running, rfl⟩)⟩
            · exact ⟨rfl, rfl, .inr (.inr ⟨running, rfl⟩)⟩
          next => exact .refl
        next method _ _ _ isMethod =>
          split
          next running =>
            refine handleRunning_unconfigured ?_
            rintro rfl noId
            have name_eq := Method.eq_of_ofName?_configuration isMethod
            simpa [Exchange.newSettings?, running, name_eq, noId] using noSettings
          next => exact .refl

/-- Malformed settings change nothing and are at most complained about. -/
theorem changeConfiguration_of_malformed (server : Server) (replies : Replies) {settings : Json}
    {reason : Json.DecodeError} (malformed : Layer.ofClient settings = .error reason) :
    (server.changeConfiguration replies settings).1 = server ∧
      ∀ message ∈ (server.changeConfiguration replies settings).2, message.isRequest = false := by
  simp only [changeConfiguration, malformed]
  exact ⟨trivial, fun message member => isRequest_of_mem_logged member⟩

/-- The layer of a notification: its own, or the one a connected client gives when it is asked
because there is nothing in the notification. -/
def announcedLayer (server : Server) (replies : Replies) (layer : Layer) : Layer :=
  if layer = {} && server.connected then askedLayer replies else layer

theorem changeConfiguration_of_layer (server : Server) (replies : Replies) {settings : Json}
    {layer : Layer} (isLayer : Layer.ofClient settings = .ok layer) :
    let merged := { server with
      settings := server.settings.merge (server.announcedLayer replies layer) }
    (server.changeConfiguration replies settings).1 = (merged.syncRegistration replies).1 ∧
      ∃ asked, (server.changeConfiguration replies settings).2 =
        asked ++ (merged.syncRegistration replies).2 ∧
        ∀ message ∈ asked, message = .askConfiguration settingsSection := by
  intro merged
  simp only [changeConfiguration, isLayer]
  refine ⟨rfl, _, rfl, ?_⟩
  intro message member
  split at member
  · exact List.mem_singleton.1 member
  · exact absurd member List.not_mem_nil

/-! ## What a session keeps -/

variable {origin server : Server} {exchanges : List Exchange}

theorem Session.handled_of_mem (session : Session origin exchanges server)
    (member : exchange ∈ exchanges) :
    exchange.before.handle exchange.surroundings exchange.message = some exchange.outcome := by
  induction session with
  | begun => cases member
  | handled session surroundings message handled ih =>
    rcases List.mem_append.1 member with earlier | latest
    · exact ih earlier
    · obtain rfl := List.mem_singleton.1 latest
      exact handled

/-- The server knows of its client what the client said at the start. -/
theorem Session.support_eq (session : Session origin exchanges server) :
    server.support = origin.support ∨
      ∃ exchange ∈ exchanges, ∃ params,
        exchange.startParams? = some params ∧ server.support = params.support := by
  induction session with
  | begun => exact .inl rfl
  | @handled exchanges server outcome session surroundings message handled ih =>
    let exchange : Exchange := { before := server, surroundings, message, outcome }
    have kept (same : outcome.server.support = server.support) :
        outcome.server.support = origin.support ∨
          ∃ earlier ∈ exchanges ++ [exchange], ∃ params,
            earlier.startParams? = some params ∧ outcome.server.support = params.support := by
      rw [same]
      rcases ih with atOrigin | ⟨earlier, member, params, starts, said⟩
      · exact .inl atOrigin
      · exact .inr ⟨earlier, List.mem_append_left _ member, params, starts, said⟩
    cases starts : exchange.startParams? with
    | some params =>
      have started := (handle_of_startParams? starts handled).2
      refine .inr
        ⟨exchange, List.mem_append_right _ (List.mem_singleton_self _), params, starts, ?_⟩
      exact congrArg Server.support started
    | none =>
      cases configures : exchange.newSettings? with
      | some settings =>
        obtain ⟨-, changed, -⟩ := handle_of_newSettings? configures handled
        obtain ⟨merged, registered, next_eq⟩ :=
          changeConfiguration_frame server surroundings.replies settings
        have same := congrArg Server.support (changed.trans next_eq)
        exact kept same
      | none => exact kept (unconfigured_of_handle starts configures handled).support_eq

/-! ## Running a session -/

/-- The notification of new settings. -/
def notification (settings : Json) : Message where
  id := none
  method := "workspace/didChangeConfiguration"
  params := some (.ofMembers [("settings", settings)])

/-- The exchanges of a conversation and the server after it, none if a message comes after
the exit. -/
def transcript (server : Server) : List (Surroundings × Message) → Option (List Exchange × Server)
  | [] => some ([], server)
  | (surroundings, message) :: messages =>
    (server.handle surroundings message).bind fun outcome =>
      (outcome.server.transcript messages).map fun later =>
        ({ before := server, surroundings, message, outcome } :: later.1, later.2)

theorem Session.transcript {messages : List (Surroundings × Message)} {later : List Exchange}
    {last : Server} (session : Session origin exchanges server)
    (continued : server.transcript messages = some (later, last)) :
    Session origin (exchanges ++ later) last := by
  induction messages generalizing exchanges server later with
  | nil =>
    obtain ⟨rfl, rfl⟩ := Prod.mk.inj (Option.some.inj continued)
    rw [List.append_nil]
    exact session
  | cons first messages ih =>
    obtain ⟨surroundings, message⟩ := first
    obtain ⟨outcome, handled, rest⟩ := Option.bind_eq_some_iff.1 continued
    obtain ⟨⟨behind, final⟩, transcribed, joined⟩ := Option.map_eq_some_iff.1 rest
    obtain ⟨rfl, rfl⟩ := Prod.mk.inj joined
    rw [List.append_cons]
    exact ih (.handled session surroundings message handled) transcribed

theorem Session.exists_of_any_transcript {messages : List (Surroundings × Message)}
    {passes : List Exchange × Server → Bool}
    (passed : (origin.transcript messages).any passes = true) :
    ∃ exchanges server, Session origin exchanges server ∧ passes (exchanges, server) = true := by
  obtain ⟨⟨exchanges, server⟩, transcribed, passed⟩ := (Option.any_eq_true _ _).1 passed
  exact ⟨exchanges, server, Session.begun.transcript transcribed, passed⟩

end GotoDefinition.Server
