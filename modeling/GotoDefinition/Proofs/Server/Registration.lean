import GotoDefinition.Proofs.Server.Definition
import GotoDefinition.Proofs.Server.Session

/-!
# The registration of the definition provider

The requests to register and to unregister that a session sends, each with the reply of
the client, form a trace.  Every trace is `Orderly`: the server registers only when it
takes the provider for unregistered, and unregisters only right behind a registration that
was granted.  What the server takes for registered is what its settings ask for, and it is
what the client holds unless a request to unregister was refused (`Stranded`).
-/

namespace GotoDefinition.Server

/-- A request about the definition provider, and whether the client granted it. -/
inductive RegistrationRequest where
  | register (registration : Registration) (granted : Bool)
  | unregister (granted : Bool)
deriving DecidableEq, Repr

/-- The request that a message is, granted or not as the client replies. -/
def RegistrationRequest.ofSent? (replies : Replies) : Sent → Option RegistrationRequest
  | .register registration => some (.register registration replies.register.succeeds)
  | .unregister => some (.unregister replies.unregister.succeeds)
  | .log _ _ => none
  | .askConfiguration _ => none

/-- The requests among the messages sent in one exchange. -/
def requestsIn (replies : Replies) (sent : List Sent) : List RegistrationRequest :=
  sent.filterMap (RegistrationRequest.ofSent? replies)

/-- The trace of a session. -/
def registrationTrace (exchanges : List Exchange) : List RegistrationRequest :=
  exchanges.flatMap fun exchange =>
    requestsIn exchange.surroundings.replies exchange.outcome.sent

/-! ## Orderly traces -/

/-- The traces in which no registration is made twice and none is withdrawn that was not
granted, with the registration that is left at the end. -/
inductive Orderly : List RegistrationRequest → Option Registration → Prop where
  | nil : Orderly [] none
  | granted {trace : List RegistrationRequest} (orderly : Orderly trace none)
      (registration : Registration) :
      Orderly (trace ++ [.register registration true]) (some registration)
  | refused {trace : List RegistrationRequest} (orderly : Orderly trace none)
      (registration : Registration) : Orderly (trace ++ [.register registration false]) none
  | unregistered {trace : List RegistrationRequest} {registration : Registration}
      (orderly : Orderly trace (some registration)) (granted : Bool) :
      Orderly (trace ++ [.unregister granted]) none

variable {trace earlier later : List RegistrationRequest} {held : Option Registration}
  {registration : Registration} {request : RegistrationRequest}

theorem Orderly.eq_none (orderly : Orderly [] held) : held = none := by
  generalize trace_eq : ([] : List RegistrationRequest) = trace at orderly
  cases orderly with
  | nil => rfl
  | granted | refused | unregistered => simp at trace_eq

theorem Orderly.eq_some_iff (orderly : Orderly trace held) :
    held = some registration ↔ ∃ earlier, trace = earlier ++ [.register registration true] := by
  cases orderly with
  | nil => simp
  | granted orderly given =>
    constructor
    · intro same
      cases same
      exact ⟨_, rfl⟩
    · rintro ⟨earlier, split⟩
      obtain ⟨-, last_eq⟩ := List.append_inj' split rfl
      cases last_eq
      rfl
  | refused orderly given => simp
  | unregistered orderly granted => simp

/-- A list with one more element divides where it divided before, or at that element. -/
theorem split_concat {α : Type} {list front back : List α} {last middle : α}
    (split : list ++ [last] = front ++ middle :: back) :
    (front = list ∧ middle = last ∧ back = []) ∨
      ∃ shorter, back = shorter ++ [last] ∧ list = front ++ middle :: shorter := by
  rcases List.eq_nil_or_concat back with rfl | ⟨shorter, other, rfl⟩
  · obtain ⟨list_eq, last_eq⟩ := List.append_inj' split rfl
    cases last_eq
    exact .inl ⟨list_eq.symm, rfl, rfl⟩
  · rw [List.concat_eq_append, ← List.cons_append, ← List.append_assoc] at split
    obtain ⟨list_eq, last_eq⟩ := List.append_inj' split rfl
    cases last_eq
    exact .inr ⟨shorter, List.concat_eq_append, list_eq⟩

/-- What an orderly trace has come to when the next request is made. -/
def RegistrationRequest.Due (request : RegistrationRequest) (held : Option Registration) : Prop :=
  match request with
  | .register _ _ => held = none
  | .unregister _ => held.isSome

theorem Orderly.due (orderly : Orderly trace held) (split : trace = earlier ++ request :: later) :
    ∃ heldThen, Orderly earlier heldThen ∧ request.Due heldThen := by
  induction orderly generalizing later with
  | nil => simp at split
  | granted orderly given ih | refused orderly given ih =>
    rcases split_concat split with ⟨rfl, rfl, -⟩ | ⟨shorter, -, shorterSplit⟩
    · exact ⟨none, orderly, rfl⟩
    · exact ih shorterSplit
  | unregistered orderly granted ih =>
    rcases split_concat split with ⟨rfl, rfl, -⟩ | ⟨shorter, -, shorterSplit⟩
    · exact ⟨_, orderly, rfl⟩
    · exact ih shorterSplit

/-- A registration that is gone was withdrawn. -/
theorem Orderly.unregister_mem (orderly : Orderly trace none)
    (split : trace = earlier ++ .register registration true :: later) :
    ∃ granted, .unregister granted ∈ later := by
  generalize held_eq : none = held at orderly
  induction orderly generalizing later with
  | nil => simp at split
  | granted orderly given ih => cases held_eq
  | refused orderly given ih =>
    rcases split_concat split with ⟨-, same, -⟩ | ⟨shorter, rfl, shorterSplit⟩
    · cases same
    · obtain ⟨granted, member⟩ := ih shorterSplit rfl
      exact ⟨granted, List.mem_append_left _ member⟩
  | unregistered orderly granted ih =>
    rcases split_concat split with ⟨-, same, -⟩ | ⟨shorter, rfl, -⟩
    · cases same
    · exact ⟨granted, List.mem_append_right _ (List.mem_singleton_self _)⟩

/-! ## Requests of the handlers -/

section Handlers

variable {server : Server} {sent : List Sent} (replies : Replies)

theorem requestsIn_append (sent more : List Sent) :
    requestsIn replies (sent ++ more) = requestsIn replies sent ++ requestsIn replies more :=
  List.filterMap_append

theorem requestsIn_eq_nil (noRequest : ∀ message ∈ sent, message.isRequest = false) :
    requestsIn replies sent = [] := by
  refine List.filterMap_eq_nil_iff.2 fun message member => ?_
  have isLog := noRequest message member
  cases message with
  | log level text => rfl
  | register | unregister | askConfiguration => cases isLog

theorem requestsIn_logged (level : LogLevel) (text : String) :
    requestsIn replies (server.logged level text) = [] :=
  requestsIn_eq_nil replies fun _ member => isRequest_of_mem_logged member

theorem Orderly.unregister (orderly : Orderly trace held)
    (registered_eq : server.registered = held.isSome) :
    Orderly (trace ++ requestsIn replies server.unregister.2) none ∧
      server.unregister.1.registered = false := by
  unfold Server.unregister
  cases held with
  | none =>
    rw [Option.isSome_none] at registered_eq
    rw [if_neg (by simp [registered_eq])]
    simp only [requestsIn, List.filterMap_nil, List.append_nil]
    exact ⟨orderly, registered_eq⟩
  | some registration =>
    rw [if_pos (by simp [registered_eq])]
    exact ⟨orderly.unregistered _, rfl⟩

theorem Orderly.register (orderly : Orderly trace none) (unregistered : server.registered = false) :
    ∃ held, Orderly (trace ++ requestsIn replies (server.register replies).2) held ∧
      (server.register replies).1.registered = held.isSome ∧
      ∀ registration, held = some registration →
        server.settings.registration? = some registration := by
  unfold Server.register
  split
  next =>
    refine ⟨none, ?_, unregistered, fun _ absent => nomatch absent⟩
    simpa only [requestsIn, List.filterMap_nil, List.append_nil] using orderly
  next registration isRegistration =>
    cases granted : replies.register.succeeds with
    | true =>
      refine ⟨some registration, ?_, rfl, ?_⟩
      · have next := orderly.granted registration
        simpa only [requestsIn, List.filterMap_cons, List.filterMap_nil,
          RegistrationRequest.ofSent?, granted] using next
      · intro _ same
        rw [isRegistration, same]
    | false =>
      refine ⟨none, ?_, rfl, fun _ absent => nomatch absent⟩
      have next := orderly.refused registration
      simpa only [requestsIn, List.filterMap_cons, List.filterMap_nil,
        RegistrationRequest.ofSent?, granted] using next

/-- Bringing the registration in line leaves registered what the settings ask for, or nothing. -/
theorem Orderly.sync (orderly : Orderly trace held) (server : Server) (replies : Replies)
    (registered_eq : server.registered = held.isSome)
    (able : (server.support.dynamicDefinition && server.connected) = true) :
    ∃ held, Orderly (trace ++ requestsIn replies (server.syncRegistration replies).2) held ∧
      (server.syncRegistration replies).1.registered = held.isSome ∧
      ∀ registration, held = some registration →
        server.settings.registration? = some registration := by
  obtain ⟨withdrawn, unregistered⟩ := orderly.unregister replies registered_eq
  obtain ⟨renewed, next, registered_eq, current⟩ :=
    withdrawn.register replies unregistered
  obtain ⟨flag, frame⟩ := unregister_frame server
  refine ⟨renewed, ?_, ?_, ?_⟩
  · rw [syncRegistration, if_pos able, requestsIn_append, ← List.append_assoc]
    exact next
  · rw [syncRegistration, if_pos able]
    exact registered_eq
  · intro registration renewed_eq
    have asked := current registration renewed_eq
    rw [frame] at asked
    exact asked

theorem syncRegistration_of_unable
    (unable : (server.support.dynamicDefinition && server.connected) = false) :
    server.syncRegistration replies = (server, []) := by
  rw [syncRegistration, if_neg (by simp [unable])]

end Handlers

/-! ## Sessions -/

/-- The server takes for registered what its trace leaves registered, and that is what its
settings ask for.  There is no trace before the start, nor where nothing can be registered. -/
structure InLine (trace : List RegistrationRequest) (held : Option Registration)
    (server : Server) : Prop where
  orderly : Orderly trace held
  registered_eq : server.registered = held.isSome
  current : ∀ registration, held = some registration →
    server.settings.registration? = some registration
  silent : server.phase = .uninitialized ∨
    (server.support.dynamicDefinition && server.connected) = false → trace = []

variable {surroundings : Surroundings} {server next origin : Server} {sent : List Sent}
  {exchanges : List Exchange}

theorem InLine.nil (unregistered : server.registered = false) : InLine [] none server where
  orderly := .nil
  registered_eq := unregistered
  current _ absent := nomatch absent
  silent _ := rfl

/-- Whatever asks nothing of the client and keeps the settings keeps the registration in line. -/
theorem InLine.of_frame (inLine : InLine trace held server)
    (noRequest : requestsIn surroundings.replies sent = [])
    (sameRegistered : next.registered = server.registered)
    (sameSettings : next.settings = server.settings) (sameSupport : next.support = server.support)
    (sameConnected : next.connected = server.connected)
    (onward : next.phase = .uninitialized → server.phase = .uninitialized) :
    ∃ held, InLine (trace ++ requestsIn surroundings.replies sent) held next := by
  rw [noRequest, List.append_nil]
  refine ⟨held, inLine.orderly, ?_, ?_, ?_⟩
  · rw [sameRegistered, inLine.registered_eq]
  · rw [sameSettings]
    exact inLine.current
  · rw [sameSupport, sameConnected]
    intro mute
    exact inLine.silent (mute.imp_left onward)

/-- With other settings the registration is brought in line again. -/
theorem InLine.sync (inLine : InLine trace held server) (started : server.phase ≠ .uninitialized)
    (settings : Settings) (replies : Replies) :
    let synced := { server with settings }.syncRegistration replies
    ∃ held, InLine (trace ++ requestsIn replies synced.2) held synced.1 := by
  intro synced
  obtain ⟨flag, frame⟩ := syncRegistration_frame { server with settings } replies
  cases able : server.support.dynamicDefinition && server.connected with
  | true =>
    obtain ⟨renewed, orderly, registered_eq, current⟩ :=
      inLine.orderly.sync { server with settings } replies inLine.registered_eq able
    refine ⟨renewed, orderly, registered_eq, ?_, ?_⟩
    · rw [show synced.1.settings = settings from congrArg Server.settings frame]
      exact current
    · rw [show synced.1 = _ from frame]
      rintro (fresh | unable)
      · exact absurd fresh started
      · exact absurd (able.symm.trans unable) (by simp)
  | false =>
    obtain rfl := inLine.silent (.inr able)
    obtain rfl := inLine.orderly.eq_none
    have unchanged : synced = ({ server with settings }, []) :=
      syncRegistration_of_unable replies able
    rw [unchanged]
    exact ⟨none, .nil inLine.registered_eq⟩

theorem requestsIn_ready (replies : Replies) :
    requestsIn replies (server.ready surroundings).2 =
      requestsIn replies (server.syncRegistration surroundings.replies).2 := by
  unfold ready scanWorkspace
  simp only
  split
  · simp only [requestsIn_append, requestsIn_logged, List.append_nil]
  · simp only [requestsIn_append, requestsIn_logged, List.append_nil]

theorem registered_ready :
    (server.ready surroundings).1.registered =
      (server.syncRegistration surroundings.replies).1.registered := by
  unfold ready
  simp only
  split
  · rfl
  · rfl

/-- Every step keeps the registration in line. -/
theorem InLine.step (inLine : InLine trace held server)
    (step : Step surroundings server sent next) :
    ∃ held, InLine (trace ++ requestsIn surroundings.replies sent) held next := by
  cases step with
  | start params fresh =>
    -- The settings are read anew, but nothing is registered yet.
    obtain rfl := inLine.silent (.inl fresh)
    obtain rfl := inLine.orderly.eq_none
    exact ⟨none, .nil inLine.registered_eq⟩
  | ready running =>
    obtain ⟨renewed, synced⟩ := inLine.sync (by simp [running]) server.settings surroundings.replies
    obtain ⟨flag, frame⟩ := syncRegistration_frame server surroundings.replies
    obtain ⟨index, registered, next_eq, -⟩ := ready_frame server surroundings
    refine ⟨renewed, ?_, ?_, ?_, ?_⟩
    · rw [requestsIn_ready]
      exact synced.orderly
    · rw [registered_ready]
      exact synced.registered_eq
    · rw [next_eq]
      have current := synced.current
      rw [frame] at current
      exact current
    · rw [next_eq, requestsIn_ready]
      have silent := synced.silent
      rw [frame] at silent
      exact silent
  | configure running settings =>
    cases decoded : Layer.ofClient settings with
    | error reason =>
      obtain ⟨same, onlyLogged⟩ :=
        changeConfiguration_of_malformed server surroundings.replies decoded
      rw [same]
      exact inLine.of_frame (requestsIn_eq_nil _ onlyLogged) rfl rfl rfl rfl id
    | ok layer =>
      obtain ⟨next_eq, asked, sent_eq, questions⟩ :=
        changeConfiguration_of_layer server surroundings.replies decoded
      have noRequest : requestsIn surroundings.replies asked = [] := by
        refine List.filterMap_eq_nil_iff.2 fun message member => ?_
        rw [questions message member]
        rfl
      rw [next_eq, sent_eq, requestsIn_append, noRequest, List.nil_append]
      exact inLine.sync (by simp [running]) _ _
  | openDocument running params =>
    exact inLine.of_frame (requestsIn_logged _ _ _) rfl rfl rfl rfl id
  | changeDocument running params =>
    unfold changeDocument
    split
    · exact inLine.of_frame rfl rfl rfl rfl rfl id
    · exact inLine.of_frame rfl rfl rfl rfl rfl id
  | closeDocument running uri =>
    exact inLine.of_frame (requestsIn_logged _ _ _) rfl rfl rfl rfl id
  | answer running searches sent noRequest =>
    exact inLine.of_frame (requestsIn_eq_nil _ noRequest) rfl rfl rfl rfl id
  | turn phase onward =>
    refine inLine.of_frame rfl rfl rfl rfl rfl ?_
    rintro rfl
    rcases onward with same | exited | ⟨-, shutDown⟩
    · exact same.symm
    · cases exited
    · cases shutDown

theorem registrationTrace_concat (exchanges : List Exchange) (exchange : Exchange) :
    registrationTrace (exchanges ++ [exchange]) =
      registrationTrace exchanges ++
        requestsIn exchange.surroundings.replies exchange.outcome.sent := by
  simp [registrationTrace]

theorem Session.inLine (fresh : Fresh origin) (session : Session origin exchanges server) :
    ∃ held, InLine (registrationTrace exchanges) held server := by
  induction session with
  | begun =>
    cases fresh with
    | connected overrides compiler => exact ⟨none, .nil rfl⟩
    | alone source compiler => exact ⟨none, .nil rfl⟩
  | handled session surroundings message handled ih =>
    obtain ⟨held, inLine⟩ := ih
    rw [registrationTrace_concat]
    exact inLine.step (handle_step handled)

/-! ## The protocol -/

/-- The language that a filter of a document selector asks for. -/
def filterLanguage? (filter : Json) : Option String :=
  match filter.get? "language" with
  | some (.string language) => some language
  | _ => none

/-- The languages that a client reads off the document selector of a request to register. -/
def selectedLanguages? (params : Json) : Option (List String) :=
  match params.get? "registrations" with
  | some (.array [registration]) =>
    match (registration.get? "registerOptions").bind (·.get? "documentSelector") with
    | some (.array filters) => filters.mapM filterLanguage?
    | _ => none
  | _ => none

theorem selectedLanguages?_register (registration : Registration) :
    selectedLanguages? (Sent.register registration).params = some registration.languages := by
  have languages_eq : (registration.languages.map fun language =>
      Json.ofMembers [("language", .string language)]).mapM filterLanguage? =
        some registration.languages := by
    have reads : (filterLanguage? ∘ fun language =>
        Json.ofMembers [("language", .string language)]) = pure := by
      funext language
      simp [filterLanguage?, Json.get?_ofMembers]
    rw [List.mapM_map, reads, List.mapM_pure]
    simp
  simp [selectedLanguages?, Sent.params, Registration.toJson, Json.get?_ofMembers, languages_eq]

theorem registration_of_settings {settings : Settings}
    (asked : settings.registration? = some registration) :
    registration.languages = settings.enabledLanguages ∧ settings.enabledLanguages ≠ [] := by
  unfold Settings.registration? at asked
  split at asked
  · cases asked
  next nonempty =>
    cases asked
    exact ⟨rfl, by simpa using nonempty⟩

/-- In every session, whatever the client replies, a request to unregister is made only behind
a registration that was granted and has not been withdrawn, and of two registrations that were
granted the first is withdrawn in between.  The server takes the provider for registered exactly
if its last request was a registration that was granted, and that one selects the languages that
are enabled now, at least one of them.  A client that does not take registrations is sent none. -/
theorem registration_protocol (fresh : Fresh origin) (session : Session origin exchanges server) :
    let trace := registrationTrace exchanges
    (∀ earlier granted later, trace = earlier ++ .unregister granted :: later →
      ∃ before registration between,
        earlier = before ++ .register registration true :: between ∧
        ∀ granted, .unregister granted ∉ between) ∧
    (∀ earlier first between second later,
      trace = earlier ++ .register first true :: between ++ .register second true :: later →
      ∃ granted, .unregister granted ∈ between) ∧
    (server.registered = true ↔
      ∃ earlier registration, trace = earlier ++ [.register registration true]) ∧
    (∀ earlier registration, trace = earlier ++ [.register registration true] →
      selectedLanguages? (Sent.register registration).params =
        some server.settings.enabledLanguages ∧ server.settings.enabledLanguages ≠ []) ∧
    ((∀ exchange ∈ exchanges, ∀ params, exchange.startParams? = some params →
        params.support.dynamicDefinition = false) →
      trace = [] ∧ server.registered = false) := by
  intro trace
  obtain ⟨held, inLine⟩ := session.inLine fresh
  have orderly : Orderly trace held := inLine.orderly
  refine ⟨?_, ?_, ?_, ?_, ?_⟩
  · intro earlier granted later split
    obtain ⟨heldThen, orderlyThen, isHeld⟩ := orderly.due split
    obtain ⟨registration, rfl⟩ := Option.isSome_iff_exists.1 isHeld
    obtain ⟨before, rfl⟩ := orderlyThen.eq_some_iff.1 rfl
    exact ⟨before, registration, [], rfl, fun _ => List.not_mem_nil⟩
  · intro earlier first between second later split
    obtain ⟨heldThen, orderlyThen, rfl⟩ := orderly.due split
    exact orderlyThen.unregister_mem rfl
  · rw [inLine.registered_eq, Option.isSome_iff_exists]
    constructor
    · rintro ⟨registration, isHeld⟩
      obtain ⟨earlier, split⟩ := orderly.eq_some_iff.1 isHeld
      exact ⟨earlier, registration, split⟩
    · rintro ⟨earlier, registration, split⟩
      exact ⟨registration, orderly.eq_some_iff.2 ⟨earlier, split⟩⟩
  · intro earlier registration split
    have isHeld := orderly.eq_some_iff.2 ⟨earlier, split⟩
    obtain ⟨languages_eq, nonempty⟩ := registration_of_settings (inLine.current _ isHeld)
    rw [selectedLanguages?_register, languages_eq]
    exact ⟨rfl, nonempty⟩
  · intro noDynamic
    have unable : server.support.dynamicDefinition = false := by
      rcases session.support_eq with atOrigin | ⟨exchange, member, params, starts, said⟩
      · rw [atOrigin]
        cases fresh <;> rfl
      · rw [said]
        exact noDynamic exchange member params starts
    have empty : trace = [] := inLine.silent (.inr (by simp [unable]))
    rw [empty] at orderly
    rw [inLine.registered_eq, orderly.eq_none]
    exact ⟨empty, rfl⟩

/-! ## A conversation -/

/-- The greeting of a client that takes registrations. -/
def dynamicGreeting : Message where
  id := some (.nat 0)
  method := "initialize"
  params := some (.ofMembers [("capabilities", .ofMembers [("textDocument", .ofMembers [
    ("definition", .ofMembers [("dynamicRegistration", .bool true)])])])])

def readiness : Message where
  id := none
  method := "initialized"
  params := some (.ofMembers [])

def enabling (languages : List String) : Message :=
  notification (.ofMembers [("enabledLanguages", .array (languages.map .string))])

/-- A client that keeps what it has. -/
def clinging : Surroundings :=
  { nowhere with replies := { unregister := .error "not now" } }

/-- The languages change, and the client refuses to let the old ones go. -/
theorem registration_protocol_after_refusal :
    ∃ exchanges server,
      Session (connectedTo { enabledLanguages := some ["rust"] }) exchanges server ∧
      registrationTrace exchanges =
        [.register ⟨["rust"]⟩ true, .unregister false, .register ⟨["go"]⟩ true] ∧
      server.registered = true ∧ server.settings.enabledLanguages = ["go"] := by
  obtain ⟨exchanges, server, session, evaluated⟩ := Session.exists_of_any_transcript
    (show ((connectedTo { enabledLanguages := some ["rust"] }).transcript
        [(nowhere, dynamicGreeting), (nowhere, readiness), (clinging, enabling ["go"])]).any
      (fun later => registrationTrace later.1 =
        [.register ⟨["rust"]⟩ true, .unregister false, .register ⟨["go"]⟩ true]) = true
      by decide +kernel)
  have trace_eq : registrationTrace exchanges = _ := of_decide_eq_true evaluated
  obtain ⟨-, -, registered_iff, selected, -⟩ :=
    registration_protocol (.connected _ .standard) session
  have languages_eq := (selected [.register ⟨["rust"]⟩ true, .unregister false] _ trace_eq).1
  rw [selectedLanguages?_register] at languages_eq
  exact ⟨exchanges, server, session, trace_eq,
    registered_iff.2 ⟨[.register ⟨["rust"]⟩ true, .unregister false], _, trace_eq⟩,
    (Option.some.inj languages_eq).symm⟩

/-! ## What the client holds -/

/-- Whether a client holds a registration after a request.  One that it refuses changes nothing. -/
def RegistrationRequest.heldAfter (held : Bool) : RegistrationRequest → Bool
  | .register _ granted => granted || held
  | .unregister granted => !granted && held

def clientHolds (trace : List RegistrationRequest) : Bool :=
  trace.foldl RegistrationRequest.heldAfter false

/-- Whether a request changes what the client or the server takes for registered. -/
def RegistrationRequest.counts : RegistrationRequest → Bool
  | .register _ granted => granted
  | .unregister _ => true

/-- The last request that counts was to unregister and was refused: the client goes on holding
what the server has given up. -/
def Stranded (trace : List RegistrationRequest) : Prop :=
  (trace.filter RegistrationRequest.counts).getLast? = some (.unregister false)

theorem clientHolds_concat (trace : List RegistrationRequest) (request : RegistrationRequest) :
    clientHolds (trace ++ [request]) = request.heldAfter (clientHolds trace) := by
  simp [clientHolds]

theorem Stranded.unregister_mem (stranded : Stranded trace) : .unregister false ∈ trace :=
  List.mem_of_mem_filter (List.mem_of_getLast? stranded)

theorem Orderly.clientHolds_iff (orderly : Orderly trace held) :
    (held.isSome = true → ¬ Stranded trace) ∧
      (clientHolds trace = true ↔ held.isSome = true ∨ Stranded trace) := by
  induction orderly with
  | nil => simp [clientHolds, Stranded]
  | granted orderly registration ih =>
    simp [clientHolds_concat, Stranded, RegistrationRequest.heldAfter, RegistrationRequest.counts]
  | refused orderly registration ih =>
    simpa [clientHolds_concat, Stranded, RegistrationRequest.heldAfter,
      RegistrationRequest.counts] using ih
  | unregistered orderly granted ih =>
    have holds : clientHolds _ = true := ih.2.2 (.inl rfl)
    simp [clientHolds_concat, Stranded, RegistrationRequest.heldAfter, RegistrationRequest.counts,
      holds]

/-- The server and the client agree on whether the provider is registered exactly as long as no
refusal to unregister has left the client with a registration.  Only then does the client still
hold one when no language is enabled, or when the next registration is made; and for that it has
to have refused to unregister. -/
theorem registered_eq_clientHolds_iff (fresh : Fresh origin)
    (session : Session origin exchanges server) :
    let trace := registrationTrace exchanges
    (server.registered = clientHolds trace ↔ ¬ Stranded trace) ∧
    (server.settings.enabledLanguages = [] → (clientHolds trace = true ↔ Stranded trace)) ∧
    (∀ earlier registration granted later,
      trace = earlier ++ .register registration granted :: later →
      (clientHolds earlier = true ↔ Stranded earlier)) ∧
    ∀ earlier later, trace = earlier ++ later → Stranded earlier → .unregister false ∈ trace := by
  intro trace
  obtain ⟨held, inLine⟩ := session.inLine fresh
  obtain ⟨notStranded, holds_iff⟩ := inLine.orderly.clientHolds_iff
  refine ⟨?_, ?_, ?_, ?_⟩
  · rw [inLine.registered_eq]
    constructor
    · intro agree stranded
      have isHeld := agree.trans (holds_iff.2 (.inr stranded))
      exact notStranded isHeld stranded
    · intro settled
      rw [Bool.eq_iff_iff, holds_iff]
      exact ⟨.inl, fun holds => holds.resolve_right settled⟩
  · intro noLanguage
    rw [holds_iff]
    constructor
    · rintro (isHeld | stranded)
      · obtain ⟨registration, held_eq⟩ := Option.isSome_iff_exists.1 isHeld
        exact absurd noLanguage (registration_of_settings (inLine.current _ held_eq)).2
      · exact stranded
    · exact .inr
  · intro earlier registration granted later split
    obtain ⟨heldThen, orderlyThen, rfl⟩ := inLine.orderly.due split
    rw [orderlyThen.clientHolds_iff.2]
    simp
  · intro earlier later split stranded
    rw [split]
    exact List.mem_append_left _ stranded.unregister_mem

/-- A client that lets go agrees with the server at the end, where no language is left. -/
theorem registered_eq_clientHolds_when_granted :
    ∃ exchanges server,
      Session (connectedTo { enabledLanguages := some ["rust"] }) exchanges server ∧
      registrationTrace exchanges = [.register ⟨["rust"]⟩ true, .unregister true] ∧
      server.registered = clientHolds (registrationTrace exchanges) := by
  obtain ⟨exchanges, server, session, evaluated⟩ := Session.exists_of_any_transcript
    (show ((connectedTo { enabledLanguages := some ["rust"] }).transcript
        [(nowhere, dynamicGreeting), (nowhere, readiness), (nowhere, enabling [])]).any
      (fun later => registrationTrace later.1 = [.register ⟨["rust"]⟩ true, .unregister true]) = true
      by decide +kernel)
  have trace_eq : registrationTrace exchanges = _ := of_decide_eq_true evaluated
  refine ⟨exchanges, server, session, trace_eq, ?_⟩
  refine (registered_eq_clientHolds_iff (.connected _ .standard) session).1.2 ?_
  rw [trace_eq]
  simp [Stranded, RegistrationRequest.counts]

/-- No language is left and the client refuses to unregister: the server takes the provider for
unregistered while the client goes on holding it. -/
theorem client_holds_what_server_gave_up :
    ∃ exchanges server,
      Session (connectedTo { enabledLanguages := some ["rust"] }) exchanges server ∧
      registrationTrace exchanges = [.register ⟨["rust"]⟩ true, .unregister false] ∧
      server.settings.enabledLanguages = [] ∧ server.registered = false ∧
      clientHolds (registrationTrace exchanges) = true := by
  obtain ⟨exchanges, server, session, evaluated⟩ := Session.exists_of_any_transcript
    (show ((connectedTo { enabledLanguages := some ["rust"] }).transcript
        [(nowhere, dynamicGreeting), (nowhere, readiness), (clinging, enabling [])]).any
      (fun later => registrationTrace later.1 = [.register ⟨["rust"]⟩ true, .unregister false] ∧
        later.2.settings.enabledLanguages = [] ∧ later.2.registered = false ∧
        clientHolds (registrationTrace later.1) = true) = true
      by decide +kernel)
  exact ⟨exchanges, server, session, of_decide_eq_true evaluated⟩

end GotoDefinition.Server
