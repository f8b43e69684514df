import GotoDefinition.Proofs.Server.Documents
import GotoDefinition.Proofs.Server.Session

/-!
# The settings of a session

The settings in effect are one fold over layers, from the defaults through the files, the
command line and the options of the client to one layer for each notification of new
settings (`settingsLayers`).  Put on top of each other, layers leave each setting with the
value of the last one that mentions it (`LastMentioned`).
-/

namespace GotoDefinition

/-! ## Layers on top of each other -/

/-- The layer that mentions every setting, with the value it has before anyone asks. -/
def Layer.defaults : Layer where
  enabledLanguages := some []
  variant := some .strict
  indexWorkspace := some true
  maxFileSize := some 1048576

/-- Each setting has the value of the last layer that mentions it. -/
structure LastMentioned (layers : List Layer) (settings : Settings) : Prop where
  enabledLanguages_eq :
    (layers.filterMap Layer.enabledLanguages).getLast? = some settings.enabledLanguages
  variant_eq : (layers.filterMap Layer.variant).getLast? = some settings.variant
  indexWorkspace_eq :
    (layers.filterMap Layer.indexWorkspace).getLast? = some settings.indexWorkspace
  maxFileSize_eq : (layers.filterMap Layer.maxFileSize).getLast? = some settings.maxFileSize

namespace Settings

/-- One setting at a time: layers that are merged leave the value of the last mention. -/
theorem field_foldl_merge {α : Type} {mention : Layer → Option α} {field : Settings → α}
    (field_merge : ∀ settings layer,
      field (merge settings layer) = (mention layer).getD (field settings))
    (settings : Settings) (layers : List Layer) :
    field (layers.foldl merge settings) =
      (layers.filterMap mention).getLast?.getD (field settings) := by
  induction layers generalizing settings with
  | nil => rfl
  | cons layer layers ih =>
    rw [List.foldl_cons, ih, field_merge]
    cases mentioned : mention layer with
    | none => rw [List.filterMap_cons_none mentioned, Option.getD_none]
    | some value => simp [List.filterMap_cons_some mentioned, List.getLast?_cons]

theorem getLast?_mentions {α : Type} {mention : Layer → Option α} {field : Settings → α}
    (field_merge : ∀ settings layer,
      field (merge settings layer) = (mention layer).getD (field settings))
    (default_eq : mention .defaults = some (field {})) (layers : List Layer) :
    ((Layer.defaults :: layers).filterMap mention).getLast? =
      some (field (layers.foldl merge {})) := by
  rw [field_foldl_merge field_merge, List.filterMap_cons_some default_eq, List.getLast?_cons]

theorem lastMentioned_foldl_merge (layers : List Layer) :
    LastMentioned (.defaults :: layers) (layers.foldl merge {}) where
  enabledLanguages_eq := getLast?_mentions (fun _ _ => rfl) rfl layers
  variant_eq := getLast?_mentions (fun _ _ => rfl) rfl layers
  indexWorkspace_eq := getLast?_mentions (fun _ _ => rfl) rfl layers
  maxFileSize_eq := getLast?_mentions (fun _ _ => rfl) rfl layers

@[simp] theorem merge_empty (settings : Settings) : settings.merge {} = settings := rfl

end Settings

/-! ## Where layers come from -/

/-- What a settings file counts for: nothing if it cannot be read, is no text or is malformed. -/
def Layer.inFile (disk : Disk) (path : Path) : Layer :=
  match disk.read path with
  | .error _ => {}
  | .ok bytes =>
    match Text.ofUtf8? bytes with
    | none => {}
    | some text => ((Toml.parse? text).bind ofToml?).getD {}

/-- What a value from the client counts for: nothing if it is malformed. -/
def Layer.inValue (value : Json) : Layer :=
  (ofClient value).toOption.getD {}

theorem Layer.ofFileOrEmpty_eq_inFile (disk : Disk) (path : Path) :
    ofFileOrEmpty disk path = inFile disk path := by
  unfold ofFileOrEmpty ofFile inFile
  cases disk.read path with
  | error reason => cases reason <;> rfl
  | ok bytes =>
    simp only
    cases Text.ofUtf8? bytes with
    | none => rfl
    | some text =>
      simp only
      cases (Toml.parse? text).bind ofToml? <;> rfl

theorem Settings.ofFiles_eq (disk : Disk) (userFile root : Option Path) (extra : Layer) :
    ofFiles disk userFile root extra =
      (userFile.toList.map (Layer.inFile disk) ++
        root.toList.map (fun root => Layer.inFile disk (root.join workspaceSettingsFile)) ++
        [extra]).foldl merge {} := by
  cases userFile <;> cases root <;> simp [ofFiles, Layer.ofFileOrEmpty_eq_inFile]

namespace Server

/-- The layers at the start: the user's file, the file in the workspace, the command line and
the options of the client. -/
def startLayers (surroundings : Surroundings) (overrides : Layer) (params : StartParams) :
    List Layer :=
  surroundings.userFile.toList.map (Layer.inFile surroundings.disk) ++
    (rootOf params).toList.map
      (fun root => Layer.inFile surroundings.disk (root.join workspaceSettingsFile)) ++
    [overrides, (params.options.map Layer.inValue).getD {}]

/-- The layer of a notification.  For an empty one a connected client is asked, and the first
value of its reply counts. -/
def notifiedLayer (connected : Bool) (replies : Replies) (settings : Json) : Layer :=
  match Layer.ofClient settings with
  | .error _ => {}
  | .ok layer =>
    if layer = {} ∧ connected = true then
      match replies.configuration with
      | .result (.array (value :: _)) => Layer.inValue value
      | _ => {}
    else layer

/-- The layers that an exchange of a session from `origin` adds. -/
def Exchange.layers (origin : Server) (exchange : Exchange) : List Layer :=
  match exchange.startParams?, exchange.newSettings? with
  | some params, _ => startLayers exchange.surroundings origin.overrides params
  | none, some settings =>
    [notifiedLayer origin.connected exchange.surroundings.replies settings]
  | none, none => []

/-- All layers of a session, the defaults first. -/
def settingsLayers (origin : Server) (exchanges : List Exchange) : List Layer :=
  .defaults :: exchanges.flatMap (Exchange.layers origin)

/-- The conversation has been started. -/
def Started (exchanges : List Exchange) : Prop :=
  ∃ exchange ∈ exchanges, ∃ params, exchange.startParams? = some params

/-! ## Handlers -/

variable {surroundings : Surroundings} {server next origin : Server} {sent : List Sent}
  {exchanges : List Exchange}

theorem optionsLayer_eq (params : StartParams) :
    optionsLayer params = (params.options.map Layer.inValue).getD {} := by
  unfold optionsLayer
  cases params.options with
  | none => rfl
  | some options =>
    simp only [Option.getD_some, Option.map_some, Layer.inValue]
    cases Layer.ofClient options <;> rfl

theorem settings_start (server : Server) (surroundings : Surroundings) (params : StartParams) :
    (server.start surroundings params).settings =
      (startLayers surroundings server.overrides params).foldl Settings.merge {} := by
  simp only [start, Settings.ofFiles_eq, optionsLayer_eq, startLayers, List.foldl_append,
    List.foldl_cons, List.foldl_nil]

theorem askedLayer_eq (replies : Replies) :
    askedLayer replies =
      match replies.configuration with
      | .result (.array (value :: _)) => Layer.inValue value
      | _ => {} := by
  unfold askedLayer
  cases replies.configuration with
  | error reason => rfl
  | result value =>
    cases value with
    | array values =>
      cases values with
      | nil => rfl
      | cons value values =>
        simp only [Reply.values?, Option.getD_some, List.head?_cons, Layer.inValue]
        cases Layer.ofClient value <;> rfl
    | null | bool | integer | float | string | object => rfl

theorem settings_changeConfiguration (server : Server) (replies : Replies) (settings : Json) :
    (server.changeConfiguration replies settings).1.settings =
      server.settings.merge (notifiedLayer server.connected replies settings) := by
  unfold notifiedLayer
  cases decoded : Layer.ofClient settings with
  | error reason =>
    rw [(changeConfiguration_of_malformed server replies decoded).1, Settings.merge_empty]
  | ok layer =>
    rw [(changeConfiguration_of_layer server replies decoded).1]
    obtain ⟨registered, frame⟩ := syncRegistration_frame { server with
      settings := server.settings.merge (server.announcedLayer replies layer) } replies
    rw [frame]
    simp only [announcedLayer, askedLayer_eq, Bool.and_eq_true, decide_eq_true_eq]

/-- Who the server talks to and what the command line says never change. -/
theorem Step.overrides_connected (step : Step surroundings server sent next) :
    next.overrides = server.overrides ∧ next.connected = server.connected := by
  cases step with
  | start params fresh => exact ⟨rfl, rfl⟩
  | ready running =>
    obtain ⟨index, registered, next_eq, -⟩ := ready_frame server surroundings
    rw [next_eq]
    exact ⟨rfl, rfl⟩
  | configure running settings =>
    obtain ⟨changed, registered, next_eq⟩ :=
      changeConfiguration_frame server surroundings.replies settings
    rw [next_eq]
    exact ⟨rfl, rfl⟩
  | openDocument | closeDocument | answer | turn => exact ⟨rfl, rfl⟩
  | changeDocument running params =>
    unfold Server.changeDocument
    split
    · exact ⟨rfl, rfl⟩
    · exact ⟨rfl, rfl⟩

/-! ## Sessions -/

/-- The settings are those of the layers so far, from the start on. -/
structure Configured (origin : Server) (exchanges : List Exchange) (server : Server) : Prop where
  overrides_eq : server.overrides = origin.overrides
  connected_eq : server.connected = origin.connected
  fresh : server.phase = .uninitialized → exchanges.flatMap (Exchange.layers origin) = []
  running : server.phase = .running → Started exchanges
  settings_eq : Started exchanges →
    server.settings = (exchanges.flatMap (Exchange.layers origin)).foldl Settings.merge {}

variable {exchange : Exchange}

theorem started_concat :
    Started (exchanges ++ [exchange]) ↔
      Started exchanges ∨ ∃ params, exchange.startParams? = some params := by
  simp [Started, or_and_right, exists_or]

theorem layers_concat :
    (exchanges ++ [exchange]).flatMap (Exchange.layers origin) =
      exchanges.flatMap (Exchange.layers origin) ++ exchange.layers origin := by
  simp

theorem Configured.handled (configured : Configured origin exchanges exchange.before)
    (handled : exchange.before.handle exchange.surroundings exchange.message =
      some exchange.outcome) :
    Configured origin (exchanges ++ [exchange]) exchange.outcome.server := by
  obtain ⟨sameOverrides, sameConnected⟩ := (handle_step handled).overrides_connected
  have overrides_eq := sameOverrides.trans configured.overrides_eq
  have connected_eq := sameConnected.trans configured.connected_eq
  cases starts : exchange.startParams? with
  | some params =>
    obtain ⟨fresh, next_eq⟩ := handle_of_startParams? starts handled
    have started : Started (exchanges ++ [exchange]) := started_concat.2 (.inr ⟨params, starts⟩)
    refine ⟨overrides_eq, connected_eq, ?_, fun _ => started, fun _ => ?_⟩
    · rw [next_eq]
      intro uninitialized
      cases uninitialized
    · have settings_eq := settings_start exchange.before exchange.surroundings params
      rw [layers_concat, configured.fresh fresh, List.nil_append, Exchange.layers, starts, next_eq]
      rw [configured.overrides_eq] at settings_eq
      exact settings_eq
  | none =>
    have started_iff : Started (exchanges ++ [exchange]) ↔ Started exchanges := by
      simp [started_concat, starts]
    cases configures : exchange.newSettings? with
    | some settings =>
      obtain ⟨running, next_eq, -⟩ := handle_of_newSettings? configures handled
      have started := configured.running running
      obtain ⟨changed, registered, frame⟩ :=
        changeConfiguration_frame exchange.before exchange.surroundings.replies settings
      refine ⟨overrides_eq, connected_eq, ?_, fun _ => started_iff.2 started, fun _ => ?_⟩
      · rw [next_eq, frame]
        intro uninitialized
        exact absurd (running.symm.trans uninitialized) (by simp)
      · rw [next_eq, settings_changeConfiguration, configured.settings_eq started,
          configured.connected_eq, layers_concat, List.foldl_append]
        simp only [Exchange.layers, starts, configures, List.foldl_cons, List.foldl_nil]
    | none =>
      have unconfigured := unconfigured_of_handle starts configures handled
      have noLayer : exchange.layers origin = [] := by
        simp only [Exchange.layers, starts, configures]
      refine ⟨overrides_eq, connected_eq, ?_, ?_, ?_⟩
      · intro uninitialized
        rw [layers_concat, noLayer, List.append_nil]
        rcases unconfigured.onward with same | exited | ⟨-, shutDown⟩
        · exact configured.fresh (same.symm.trans uninitialized)
        · exact absurd (exited.symm.trans uninitialized) (by simp)
        · exact absurd (shutDown.symm.trans uninitialized) (by simp)
      · intro running
        rcases unconfigured.onward with same | exited | ⟨-, shutDown⟩
        · exact started_iff.2 (configured.running (same.symm.trans running))
        · exact absurd (exited.symm.trans running) (by simp)
        · exact absurd (shutDown.symm.trans running) (by simp)
      · intro started
        rw [layers_concat, noLayer, List.append_nil, unconfigured.settings_eq]
        exact configured.settings_eq (started_iff.1 started)

theorem Session.configured (fresh : Fresh origin) (session : Session origin exchanges server) :
    Configured origin exchanges server := by
  induction session with
  | begun =>
    have uninitialized : origin.phase = .uninitialized := by cases fresh <;> rfl
    have notStarted : ¬ Started [] := by simp [Started]
    refine ⟨rfl, rfl, fun _ => rfl, ?_, fun started => absurd started notStarted⟩
    intro running
    exact absurd (uninitialized.symm.trans running) (by simp)
  | handled session surroundings message handled ih => exact ih.handled handled

/-- From the start of a session on, each setting has the value of the last layer that mentions
it, out of the defaults, the user's file, the file in the workspace, the command line, the
options of the client and the notifications in their order.  A notification with malformed
settings leaves the whole server as it was, and asks nothing of the client. -/
theorem settings_lastMentioned (fresh : Fresh origin) (session : Session origin exchanges server) :
    (Started exchanges → LastMentioned (settingsLayers origin exchanges) server.settings) ∧
    ∀ exchange ∈ exchanges, ∀ settings reason,
      exchange.newSettings? = some settings → Layer.ofClient settings = .error reason →
      exchange.outcome.server = exchange.before ∧
        ∀ message ∈ exchange.outcome.sent, message.isRequest = false := by
  constructor
  · intro started
    rw [(session.configured fresh).settings_eq started]
    exact Settings.lastMentioned_foldl_merge _
  · intro exchange member settings reason configures malformed
    obtain ⟨-, next_eq, sent_eq⟩ :=
      handle_of_newSettings? configures (session.handled_of_mem member)
    rw [next_eq, sent_eq]
    exact changeConfiguration_of_malformed _ _ malformed

/-! ## A conversation -/

/-- A user's file and a broken file in the workspace, and a client that gives its settings only
when it is asked. -/
def furnished : Surroundings where
  disk := (nowhere.disk.write (Path.ofString "/user.toml")
      (.file (Path.ofString "variant = 'lenient'\nmaxFileSize = 10"))).write
    (Path.ofString "/ws/.symdef.toml") (.file (Path.ofString "variant = "))
  userFile := some (Path.ofString "/user.toml")
  replies :=
    { configuration := .result (.array [.ofMembers [("enabledLanguages", .array [.string "go"])]]) }

def rootedGreeting : Message where
  id := some (.nat 0)
  method := "initialize"
  params := some (.ofMembers [("capabilities", .ofMembers []), ("rootUri", .string "file:///ws"),
    ("initializationOptions", .ofMembers [("enabledLanguages", .array [.string "rust"])])])

def Exchange.isMalformed (exchange : Exchange) : Bool :=
  exchange.newSettings?.any fun settings => (Layer.ofClient settings).toOption.isNone

/-- Every kind of layer has a say, the broken file and the malformed notification apart. -/
theorem settings_lastMentioned_from_all_sources :
    ∃ exchanges server, Session (connectedTo { maxFileSize := some 20 }) exchanges server ∧
      Started exchanges ∧
      LastMentioned (settingsLayers (connectedTo { maxFileSize := some 20 }) exchanges)
        server.settings ∧
      server.settings = { enabledLanguages := ["go"], variant := .lenient, maxFileSize := 20 } ∧
      ∃ exchange ∈ exchanges, exchange.isMalformed = true ∧
        exchange.outcome.server = exchange.before := by
  obtain ⟨exchanges, server, session, evaluated⟩ := Session.exists_of_any_transcript
    (show ((connectedTo { maxFileSize := some 20 }).transcript
        [(furnished, rootedGreeting), (furnished, notification .null),
          (furnished, notification (.ofMembers [("variant", .nat 5)]))]).any
      (fun later => later.1.any (·.startParams?.isSome) && later.1.any Exchange.isMalformed &&
        decide (later.2.settings =
          { enabledLanguages := ["go"], variant := .lenient, maxFileSize := 20 })) = true
      by decide +kernel)
  simp only [Bool.and_eq_true, List.any_eq_true, decide_eq_true_eq] at evaluated
  obtain ⟨⟨starts, exchange, member, malformed⟩, settings_eq⟩ := evaluated
  obtain ⟨fromLayers, kept⟩ := settings_lastMentioned (.connected _ .standard) session
  have started : Started exchanges := by
    simpa [Started, Option.isSome_iff_exists] using starts
  refine ⟨exchanges, server, session, started, fromLayers started, settings_eq, exchange, member,
    malformed, ?_⟩
  obtain ⟨settings, configures, noLayer⟩ := (Option.any_eq_true _ _).1 malformed
  cases decoded : Layer.ofClient settings with
  | error reason => exact (kept exchange member settings reason configures decoded).1
  | ok layer =>
    rw [decoded] at noLayer
    cases noLayer

end Server

end GotoDefinition
