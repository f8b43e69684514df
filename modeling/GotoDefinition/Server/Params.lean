import GotoDefinition.Position
import GotoDefinition.Server.Capabilities

/-!
# Parameters of messages

Each message the server heeds has parameters of a fixed shape.
-/

namespace GotoDefinition

open Json (Decoder)
open Json.Decode

/-! ## Shared shapes -/

/-- A position in some setting. -/
def Position.decodeIn (setting : Setting) : Decoder Position := fun value => do
  let members ← recordIn setting "Position"
    [.required "line" unsigned32, .required "character" unsigned32] value
  return {
    line := ← member members "line" unsigned32
    character := ← member members "character" unsigned32 }

/-- A position by itself. -/
def Position.decode : Decoder Position :=
  Position.decodeIn .alone

/-- A range. -/
def Range.decode : Decoder Range := fun value => do
  let members ← record "Range"
    [.required "start" Position.decode, .required "end" Position.decode] value
  return {
    start := ← member members "start" Position.decode
    stop := ← member members "end" Position.decode }

/-- The URI of a document in some setting. -/
def decodeDocumentIn (setting : Setting) : Decoder Uri := fun value => do
  let members ← recordIn setting "TextDocumentIdentifier" [.required "uri" uri] value
  member members "uri" uri

/-- The URI of a document by itself. -/
def decodeDocument : Decoder Uri :=
  decodeDocumentIn .alone

/-- The fields of a place in a document, among others. -/
def placeFields : List Field := [
  .required "textDocument" (decodeDocumentIn .shared),
  .required "position" (Position.decodeIn .shared)]

/-- The place in a document, from members with the fields of one. -/
def memberPlace (members : List (String × Json)) : Except Json.DecodeError (Uri × Position) := do
  let document ← member members "textDocument" (decodeDocumentIn .shared)
  let position ← member members "position" (Position.decodeIn .shared)
  return (document, position)

/-- A number or a text where the difference does not matter. -/
def numberOrText : Decoder Unit :=
  form "NumberOrString" [check signed32, check string]

/-- The field that names the work on a request, to report its progress. -/
def workFields : List Field :=
  [.optional "workDoneToken" numberOrText]

/-- The field that names the results of a request, to report them bit by bit. -/
def resultFields : List Field :=
  [.optional "partialResultToken" numberOrText]

/-! ## Starting -/

/-- How the client starts the server. -/
structure StartParams where
  rootUri : Option Uri
  workspaceFolders : Option (List Uri)
  options : Option Json
  support : ClientSupport

namespace StartParams

/-- A folder of the workspace. -/
def decodeFolder : Decoder Uri := fun value => do
  let members ← record "WorkspaceFolder" [.required "uri" uri, .required "name" string] value
  member members "uri" uri

/-- The name and version of the client, which do not matter. -/
def decodeClientInfo : Decoder Unit :=
  shape "ClientInfo" [.required "name" string, .optional "version" string]

/-- How much the client wants to be told, which does not matter. -/
def decodeTrace : Decoder Unit :=
  name ["off", "messages", "verbose"]

/-- The parameters of the first request. -/
def decode : Decoder StartParams := fun value => do
  let members ← record "InitializeParams" [
    .optional "processId" unsigned32,
    .optional "rootPath" string,
    .defaulted "rootUri" (nullable uri),
    .optional "initializationOptions" any,
    .required "capabilities" ClientSupport.decode,
    .defaulted "trace" (nullable decodeTrace),
    .optional "workspaceFolders" (list decodeFolder),
    .optional "clientInfo" decodeClientInfo,
    .optional "locale" string] value
  return {
    rootUri := ← member? members "rootUri" uri
    workspaceFolders := ← member? members "workspaceFolders" (list decodeFolder)
    options := ← member? members "initializationOptions" any
    support := ← member members "capabilities" ClientSupport.decode }

end StartParams

/-! ## Documents -/

/-- A document the client opens. -/
structure OpenParams where
  uri : Uri
  languageId : String
  version : Int
  text : Text

namespace OpenParams

/-- The document itself. -/
def decodeItem : Decoder OpenParams := fun value => do
  let members ← record "TextDocumentItem" [
    .required "uri" Json.Decode.uri,
    .required "languageId" string,
    .required "version" signed32,
    .required "text" Json.Decode.text] value
  return {
    uri := ← member members "uri" Json.Decode.uri
    languageId := ← member members "languageId" string
    version := ← member members "version" signed32
    text := ← member members "text" Json.Decode.text }

/-- The parameters with the document. -/
def decode : Decoder OpenParams := fun value => do
  let members ← record "DidOpenTextDocumentParams" [.required "textDocument" decodeItem] value
  member members "textDocument" decodeItem

end OpenParams

/-- A change of an open document: the whole text after each step of it. -/
structure ChangeParams where
  uri : Uri
  version : Int
  texts : List Text

namespace ChangeParams

/-- The document and its new version. -/
def decodeDocument : Decoder (Uri × Int) := fun value => do
  let members ← record "VersionedTextDocumentIdentifier"
    [.required "uri" Json.Decode.uri, .required "version" signed32] value
  let document ← member members "uri" Json.Decode.uri
  let version ← member members "version" signed32
  return (document, version)

/-- The text of one step. -/
def decodeText : Decoder Text := fun value => do
  let members ← record "TextDocumentContentChangeEvent" [
    .optional "range" Range.decode,
    .optional "rangeLength" unsigned32,
    .required "text" Json.Decode.text] value
  member members "text" Json.Decode.text

/-- The parameters with the document and the steps. -/
def decode : Decoder ChangeParams := fun value => do
  let members ← record "DidChangeTextDocumentParams"
    [.required "textDocument" decodeDocument, .required "contentChanges" (list decodeText)] value
  let (uri, version) ← member members "textDocument" decodeDocument
  let texts ← member members "contentChanges" (list decodeText)
  return { uri, version, texts }

end ChangeParams

/-- The document the client closes. -/
def decodeClosed : Decoder Uri := fun value => do
  let members ← record "DidCloseTextDocumentParams" [.required "textDocument" decodeDocument] value
  member members "textDocument" decodeDocument

/-- The settings the client announces. -/
def decodeConfiguration : Decoder Json := fun value => do
  let members ← record "DidChangeConfigurationParams" [.required "settings" any] value
  member members "settings" any

/-- The place that a definition is asked for. -/
def decodeDefinitionPlace : Decoder (Uri × Position) := fun value => do
  let members ← sharedRecord "GotoDefinitionParams" [placeFields, workFields, resultFields] value
  memberPlace members

/-- The text of a symbol search. -/
def decodeSearch : Decoder Text := fun value => do
  let members ← sharedRecord "WorkspaceSymbolParams"
    [[.required "query" text], resultFields, workFields] value
  member members "query" text

/-- Parameters without content. -/
def decodeNothing (name : String) : Decoder Unit :=
  shape name []

end GotoDefinition
