import GotoDefinition.Server.Handlers
import GotoDefinition.Server.Refused

/-!
# From messages to handlers

A message is handled according to its method and to the phase of the conversation:
nothing but the first request is answered before it succeeded, and nothing at all after
the shutdown.  Requests the protocol knows and the server does not offer have their
parameters checked before they are refused.
-/

namespace GotoDefinition

/-! ## Results as JSON -/

/-- A position as JSON. -/
def Position.toJson (position : Position) : Json :=
  .ofMembers [("line", .nat position.line), ("character", .nat position.character)]

/-- A range as JSON. -/
def Range.toJson (range : Range) : Json :=
  .ofMembers [("start", range.start.toJson), ("end", range.stop.toJson)]

/-- A URI as JSON. -/
def Uri.toJson (uri : Uri) : Json :=
  .text uri.text

/-- A place in a document as JSON. -/
def locationJson (uri : Uri) (range : Range) : Json :=
  .ofMembers [("uri", uri.toJson), ("range", range.toJson)]

/-- A symbol as JSON; a container that is not known is left out. -/
def Symbol.toJson (symbol : Symbol) : Json :=
  let container := (symbol.container.map fun name => ("containerName", Json.text name)).toList
  .ofMembers ([
    ("name", .text symbol.name),
    ("kind", .integer symbol.kind.code),
    ("location", locationJson symbol.uri symbol.range)] ++ container)

/-- A link as JSON; an origin that is not known is left out. -/
def Link.toJson (link : Link) : Json :=
  let origin := (link.origin.map fun range => ("originSelectionRange", range.toJson)).toList
  .ofMembers ([
    ("targetUri", link.uri.toJson),
    ("targetRange", link.target.toJson),
    ("targetSelectionRange", link.selection.toJson)] ++ origin)

namespace Server

/-- Definitions as the client understands them: links, or plain places. -/
def definitionJson (support : ClientSupport) : Option (List Link) → Json
  | none => .null
  | some links =>
    .array (links.map fun link =>
      if support.linkSupport then link.toJson else locationJson link.uri link.target)

/-- The result of a symbol search, null if nothing was found. -/
def symbolsJson (symbols : List Symbol) : Json :=
  if symbols.isEmpty then .null else .array (symbols.map Symbol.toJson)

/-- What the server announces when it starts. -/
def startJson (server : Server) : Json :=
  let definition := if server.announcesDefinitions then [("definitionProvider", Json.bool true)] else []
  .ofMembers [
    ("capabilities", .ofMembers ([
      ("textDocumentSync", .nat 1), ("workspaceSymbolProvider", .bool true)] ++ definition)),
    ("serverInfo", .ofMembers [("name", .string "SymDef"), ("version", .string "0.3.0")])]

/-! ## Methods -/

/-- What the server does about a method. -/
inductive Method where
  | start
  | shutDown
  | exit
  | definition
  | symbols
  | ready
  | configuration
  | openDocument
  | changeDocument
  | closeDocument
  /-- A request that is not offered, with parameters of some shape. -/
  | refused (check : Json.Decoder Unit)
  /-- A notification that is of no interest. -/
  | unheeded

/-- Notifications that are of no interest. -/
def unheededNotifications : List String := [
  "textDocument/didSave", "textDocument/willSave", "workspace/didChangeWatchedFiles",
  "workspace/didChangeWorkspaceFolders", "workspace/didCreateFiles", "workspace/didDeleteFiles",
  "workspace/didRenameFiles"]

/-- The method of a name, none for names that mean nothing to the server. -/
def Method.ofName? (name : String) : Option Method :=
  match name with
  | "initialize" => some .start
  | "shutdown" => some .shutDown
  | "exit" => some .exit
  | "textDocument/definition" => some .definition
  | "workspace/symbol" => some .symbols
  | "initialized" => some .ready
  | "workspace/didChangeConfiguration" => some .configuration
  | "textDocument/didOpen" => some .openDocument
  | "textDocument/didChange" => some .changeDocument
  | "textDocument/didClose" => some .closeDocument
  | _ =>
    match Refused.params? name with
    | some check => some (.refused check)
    | none => if unheededNotifications.contains name then some .unheeded else none

/-! ## Requests and notifications -/

/-- The parameters of a message in the shape that its method wants. -/
def readParams {α : Type} (decoder : Json.Decoder α) (params : Option Json) :
    Except ResponseError α :=
  match params with
  | none => .error (.invalidParams "Missing params field")
  | some value =>
    match decoder value with
    | .ok result => .ok result
    | .error reason => .error (.invalidParams reason.message)

/-- Messages without parameters. -/
def noParams (params : Option Json) : Except ResponseError Unit :=
  match params with
  | none => .ok ()
  | some value => .error (.invalidParams ("Unexpected params: " ++ value.compress))

/-- What came of a message. -/
structure Outcome where
  server : Server
  sent : List Sent := []
  response : Option Response := none

/-- The outcome of a request with its result. -/
def answered (server : Server) (id : Json) (outcome : Except ResponseError Json)
    (sent : List Sent) : Outcome :=
  { server, sent, response := some { id, outcome } }

/-- The first request.  If it fails it may be made again. -/
def answerStart (server : Server) (surroundings : Surroundings) (id : Json) (params : Option Json) :
    Outcome :=
  match readParams StartParams.decode params with
  | .error error => server.answered id (.error error) []
  | .ok params =>
    let started := { server.start surroundings params with phase := .running }
    started.answered id (.ok started.startJson) []

/-- A definition request. -/
def answerDefinition (server : Server) (id : Json) (params : Option Json) : Outcome :=
  match readParams decodeDefinitionPlace params with
  | .error error => server.answered id (.error error) []
  | .ok (uri, position) =>
    let counted := { server with searches := server.searches + server.searchesFor uri position }
    match server.definition uri position with
    | .ok links => counted.answered id (.ok (definitionJson server.support links)) []
    | .error reason =>
      counted.answered id (.error (.internal reason.message))
        (server.logged .error ("Definition lookup failed: " ++ reason.message))

/-- A symbol search. -/
def answerSymbols (server : Server) (id : Json) (params : Option Json) : Outcome :=
  match readParams decodeSearch params with
  | .error error => server.answered id (.error error) []
  | .ok query =>
    let counted := { server with searches := server.searches + 1 }
    match server.search query with
    | .ok symbols => counted.answered id (.ok (symbolsJson symbols)) []
    | .error reason => counted.answered id (.error (.internal reason.message)) []

/-- Handle a notification whose parameters are as they should be; any other is dropped. -/
def notified {α : Type} (server : Server) (decoder : Json.Decoder α) (params : Option Json)
    (handler : α → Server × List Sent) : Outcome :=
  match readParams decoder params with
  | .error _ => { server }
  | .ok params =>
    let (server, sent) := handler params
    { server, sent }

/-- Refuse a message, with a response if it is a request. -/
def refuse (server : Server) (id : Option Json) (error : ResponseError) : Outcome :=
  { server, response := id.map fun id => { id, outcome := .error error } }

/-- Handle a message of a running conversation.  A request without an identifier is
dropped, and a notification with one is refused. -/
def handleRunning (server : Server) (surroundings : Surroundings) (method : Method)
    (message : Message) : Outcome :=
  match method, message.id with
  | .definition, some id => server.answerDefinition id message.params
  | .symbols, some id => server.answerSymbols id message.params
  | .refused check, some id =>
    match readParams check message.params with
    | .error error => server.answered id (.error error) []
    | .ok () => server.answered id (.error .methodNotFound) []
  | .ready, none =>
    server.notified (decodeNothing "InitializedParams") message.params fun _ =>
      server.ready surroundings
  | .configuration, none =>
    server.notified decodeConfiguration message.params
      (server.changeConfiguration surroundings.replies)
  | .openDocument, none => server.notified OpenParams.decode message.params server.openDocument
  | .changeDocument, none =>
    server.notified ChangeParams.decode message.params fun params =>
      (server.changeDocument params, [])
  | .closeDocument, none =>
    server.notified decodeClosed message.params (server.closeDocument surroundings.disk)
  | _, none => { server }
  | _, some id => server.refuse (some id) .invalidRequest

/-- Handle one message.  After the exit there is nobody to handle it.  A request is never
cancelled, since it is answered before the next message is read. -/
def handle (server : Server) (surroundings : Surroundings) (message : Message) : Option Outcome :=
  if server.phase = .exited then none
  else if message.method = "$/cancelRequest" then some (server.refuse message.id .invalidRequest)
  else if "$/".toList.isPrefixOf message.method.toList then some { server }
  else some <|
    match Method.ofName? message.method with
    | none =>
      server.refuse message.id { ResponseError.methodNotFound with data := some (.string message.method) }
    | some .exit => { server := { server with phase := .exited } }
    | some .start =>
      match server.phase, message.id with
      | .uninitialized, some id => server.answerStart surroundings id message.params
      | .uninitialized, none => { server }
      | _, id => server.refuse id .invalidRequest
    | some .shutDown =>
      if server.phase = .running then
        let server := { server with phase := .shutDown }
        match message.id with
        | none => { server }
        | some id => server.answered id ((noParams message.params).map fun _ => .null) []
      else server.refuse message.id server.phase.refusal
    | some method =>
      if server.phase = .running then server.handleRunning surroundings method message
      else server.refuse message.id server.phase.refusal

end Server

end GotoDefinition
