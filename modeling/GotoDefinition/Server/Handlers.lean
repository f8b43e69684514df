import GotoDefinition.Server.State

/-!
# Handling single messages

Each handler takes the state before a message to the state after it, together with what
is sent to the client meanwhile.
-/

namespace GotoDefinition.Server

/-! ## Registration -/

/-- Withdraw the registration if there is one.  It counts as withdrawn whatever the
client replies. -/
def unregister (server : Server) : Server × List Sent :=
  if server.registered then ({ server with registered := false }, [.unregister])
  else (server, [])

/-- Register for the enabled languages, if there are any. -/
def register (server : Server) (replies : Replies) : Server × List Sent :=
  match server.settings.registration? with
  | none => (server, [])
  | some registration =>
    ({ server with registered := replies.register.succeeds }, [.register registration])

/-- Bring the registration in line with the settings: the old one is withdrawn first, so
that a changed list of languages takes effect. -/
def syncRegistration (server : Server) (replies : Replies) : Server × List Sent :=
  if server.support.dynamicDefinition && server.connected then
    let (server, withdrawn) := server.unregister
    let (server, renewed) := server.register replies
    (server, withdrawn ++ renewed)
  else (server, [])

/-! ## Starting -/

/-- The root of the workspace: its first folder, or else the root URI. -/
def rootOf (params : StartParams) : Option Path :=
  let folder := (params.workspaceFolders.getD []).head?
  (folder <|> params.rootUri).bind Uri.toFilePath?

/-- The layer in the options of the client, empty if they are malformed. -/
def optionsLayer (params : StartParams) : Layer :=
  match Layer.ofClient (params.options.getD .null) with
  | .ok layer => layer
  | .error _ => {}

/-- Start: read all settings anew and remember what the client can do. -/
def start (server : Server) (surroundings : Surroundings) (params : StartParams) : Server :=
  let root := rootOf params
  let settings := Settings.ofFiles surroundings.disk surroundings.userFile root server.overrides
  { server with root, settings := settings.merge (optionsLayer params), support := params.support }

/-- Whether the definition provider is announced at the start: only to a client that does
not take registrations, and only if a language is enabled. -/
def announcesDefinitions (server : Server) : Bool :=
  !server.support.dynamicDefinition && !server.settings.enabledLanguages.isEmpty

/-- Index the workspace, as far as the settings ask for it. -/
def scanWorkspace (server : Server) (disk : Disk) (root : Path) : Server × List Sent :=
  let (index, files) := server.index.indexWorkspace disk root server.settings.maxFileSize
  let message := "SymDef indexed " ++ String.ofList (Text.ofNat index.size) ++ " symbol(s) in "
    ++ String.ofList (Text.ofNat files) ++ " file(s) under " ++ root.display
  ({ server with index }, server.logged .info message)

/-- The client is ready: register, and index the workspace. -/
def ready (server : Server) (surroundings : Surroundings) : Server × List Sent :=
  let (server, registered) := server.syncRegistration surroundings.replies
  match server.root, server.settings.indexWorkspace with
  | some root, true =>
    let greeting := server.logged .info ("SymDef initialized! Indexing " ++ root.display)
    let (server, scanned) := server.scanWorkspace surroundings.disk root
    (server, registered ++ greeting ++ scanned)
  | _, _ => (server, registered ++ server.logged .info "SymDef initialized!")

/-! ## Settings -/

/-- The layer that the client gives when it is asked: the first value of its reply, or an
empty one. -/
def askedLayer (replies : Replies) : Layer :=
  match (replies.configuration.values?.getD []).head? with
  | none => {}
  | some value =>
    match Layer.ofClient value with
    | .ok layer => layer
    | .error _ => {}

/-- The client announces new settings.  Malformed ones change nothing; for empty ones a
connected client is asked. -/
def changeConfiguration (server : Server) (replies : Replies) (settings : Json) :
    Server × List Sent :=
  match Layer.ofClient settings with
  | .error reason =>
    let message := "Ignoring settings: " ++ SettingsError.message (.malformedValue reason)
    (server, server.logged .warning message)
  | .ok layer =>
    let asks := layer = {} && server.connected
    let layer := if asks then askedLayer replies else layer
    let asked := if asks then [Sent.askConfiguration settingsSection] else []
    let server := { server with settings := server.settings.merge layer }
    let (server, registered) := server.syncRegistration replies
    (server, asked ++ registered)

/-! ## Documents -/

/-- The client opens a document. -/
def openDocument (server : Server) (params : OpenParams) : Server × List Sent :=
  let document : OpenDocument :=
    { text := params.text, languageId := params.languageId, version := params.version }
  let server := { server with
    index := server.index.update params.uri params.text
    documents := server.documents.insert params.uri document }
  (server, server.logged .log ("Opened file: " ++ String.ofList params.uri.text))

/-- The client changes a document.  The last step carries the whole text; a change of a
document that is not open, or without any step, does nothing. -/
def changeDocument (server : Server) (params : ChangeParams) : Server :=
  match params.texts.getLast?, server.documents.get? params.uri with
  | some text, some document =>
    { server with
      index := server.index.update params.uri text
      documents := server.documents.insert params.uri
        { document with text, version := params.version } }
  | _, _ => server

/-- The client closes a document: what is on disk counts again. -/
def closeDocument (server : Server) (disk : Disk) (uri : Uri) : Server × List Sent :=
  let server := { server with
    documents := server.documents.erase uri
    index := server.index.close disk uri }
  (server, server.logged .log ("Closed file: " ++ String.ofList uri.text))

/-! ## Requests -/

/-- The query of a definition request: the document has to be open and of an enabled
language, and there has to be a word under the cursor. -/
def queryAt? (server : Server) (uri : Uri) (position : Position) : Option Query := do
  let document ← server.documents.get? uri
  if !server.settings.isEnabled document.languageId then none
  let line ← document.text.lineAt position.line
  let word ← line.wordAt? position.character
  return { word := word.text, line, position }

/-- The answer to a definition request: links to the definitions, never an empty list. -/
def definition (server : Server) (uri : Uri) (position : Position) :
    Except IndexError (Option (List Link)) :=
  match server.queryAt? uri position with
  | none => .ok none
  | some query =>
    (Resolver.resolve server.compiler server.settings.variant query server.search).map
      (·.filter fun links => !links.isEmpty)

/-- How many searches a definition request makes. -/
def searchesFor (server : Server) (uri : Uri) (position : Position) : Nat :=
  match server.queryAt? uri position with
  | none => 0
  | some query => Resolver.searchCount server.settings.variant query

end GotoDefinition.Server
