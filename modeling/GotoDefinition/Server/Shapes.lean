import GotoDefinition.Server.Params

/-!
# Shapes of what requests carry

Requests that the server does not offer carry edits, diagnostics, symbols and the like.
Their content does not matter, but a request is told apart from a malformed one by its
shape.
-/

namespace GotoDefinition.Shape

open Json (Decoder)
open Json.Decode

/-! ## Places -/

/-- A position. -/
def position : Decoder Unit := check Position.decode

/-- A range. -/
def range : Decoder Unit := check Range.decode

/-- A place in a document. -/
def location : Decoder Unit :=
  shape "Location" [.required "uri" uri, .required "range" range]

/-! ## Texts -/

/-- A text of some format. -/
def markup : Decoder Unit :=
  shape "MarkupContent" [.required "kind" (name ["plaintext", "markdown"]), .required "value" string]

/-- A text that is plain or of some format, under the name of its use. -/
def documentation (use : String) : Decoder Unit :=
  form use [check string, markup]

/-- A command of the server. -/
def command : Decoder Unit :=
  shape "Command" [
    .required "title" string,
    .required "command" string,
    .optional "arguments" (list any)]

/-! ## Edits -/

/-- An edit of a text. -/
def textEdit : Decoder Unit :=
  shape "TextEdit" [.required "range" range, .required "newText" string]

/-- An edit that inserts or replaces. -/
def insertReplaceEdit : Decoder Unit :=
  shape "InsertReplaceEdit"
    [.required "newText" string, .required "insert" range, .required "replace" range]

/-- Edits of one version of a document. -/
def documentEdit : Decoder Unit :=
  shape "TextDocumentEdit" [
    .required "textDocument" (shape "OptionalVersionedTextDocumentIdentifier"
      [.required "uri" uri, .optional "version" signed32]),
    .required "edits" (list textEdit)]

/-- What to do about a file that is in the way. -/
def overwriting (name : String) : Field :=
  .optional "options" (shape name
    [.optional "overwrite" boolean, .optional "ignoreIfExists" boolean])

/-- The label of a change. -/
def annotation : Field :=
  .optional "annotationId" string

/-- The shape of an operation on files, after its kind or the number of its kind. -/
def fileOperation? : Json → Option (Decoder Unit)
  | .string "create" | .integer 0 =>
    some (shape "CreateFile"
      [.required "uri" uri, overwriting "CreateFileOptions", annotation])
  | .string "rename" | .integer 1 =>
    some (shape "RenameFile" [
      .required "oldUri" uri,
      .required "newUri" uri,
      overwriting "RenameFileOptions",
      annotation])
  | .string "delete" | .integer 2 =>
    some (shape "DeleteFile" [
      .required "uri" uri,
      .optional "options" (shape "DeleteFileOptions" [
        .optional "recursive" boolean, .optional "ignoreIfNotExists" boolean, annotation])])
  | _ => none

/-- An operation on files.  Its kind is a member of its own or the first item. -/
def fileOperation : Decoder Unit
  | .object members => do
    let kind ← member members "kind" any
    ofKind kind (.object members)
  | .array (kind :: items) => ofKind kind (.array items)
  | other => .error (.invalidType other "internally tagged enum ResourceOp")
where
  /-- The operation of a kind. -/
  ofKind (kind : Json) : Decoder Unit :=
    match fileOperation? kind with
    | some operation => operation
    | none => fun _ => .error (.invalidType kind "variant identifier")

/-- Edits of several documents, and operations on files. -/
def workspaceEdit : Decoder Unit :=
  shape "WorkspaceEdit" [
    .defaulted "changes" (nullable (dictionary "map" uri (list textEdit))),
    .optional "documentChanges" (form "DocumentChanges" [
      check (list documentEdit),
      check (list (form "DocumentChangeOperation" [fileOperation, documentEdit]))]),
    .optional "changeAnnotations" (dictionary "a map" string (shape "ChangeAnnotation" [
      .required "label" string,
      .optional "needsConfirmation" boolean,
      .optional "description" string]))]

/-! ## Diagnostics and actions -/

/-- A diagnostic. -/
def diagnostic : Decoder Unit :=
  shape "Diagnostic" [
    .required "range" range,
    .optional "severity" signed32,
    .optional "code" numberOrText,
    .optional "codeDescription" (shape "CodeDescription" [.required "href" uri]),
    .optional "source" string,
    .required "message" string,
    .optional "relatedInformation" (list (shape "DiagnosticRelatedInformation"
      [.required "location" location, .required "message" string])),
    .optional "tags" (list signed32),
    .optional "data" any]

/-- An action on a piece of code. -/
def codeAction : Decoder Unit :=
  shape "CodeAction" [
    .required "title" string,
    .optional "kind" string,
    .optional "diagnostics" (list diagnostic),
    .optional "edit" workspaceEdit,
    .optional "command" command,
    .optional "isPreferred" boolean,
    .optional "disabled" (shape "CodeActionDisabled" [.required "reason" string]),
    .optional "data" any]

/-! ## What is shown in a document -/

/-- A link in a document. -/
def documentLink : Decoder Unit :=
  shape "DocumentLink" [
    .required "range" range,
    .optional "target" uri,
    .optional "tooltip" string,
    .optional "data" any]

/-- A command shown with a range. -/
def codeLens : Decoder Unit :=
  shape "CodeLens" [.required "range" range, .optional "command" command, .optional "data" any]

/-- A hint between the characters. -/
def inlayHint : Decoder Unit :=
  shape "InlayHint" [
    .required "position" position,
    .required "label" (form "InlayHintLabel" [check string, check (list part)]),
    .optional "kind" signed32,
    .optional "textEdits" (list textEdit),
    .optional "tooltip" (documentation "InlayHintTooltip"),
    .optional "paddingLeft" boolean,
    .optional "paddingRight" boolean,
    .optional "data" any]
where
  /-- A part of the hint. -/
  part : Decoder Unit :=
    shape "InlayHintLabelPart" [
      .required "value" string,
      .optional "tooltip" (documentation "InlayHintLabelPartTooltip"),
      .optional "location" location,
      .optional "command" command]

/-- A proposal of how to go on. -/
def completionItem : Decoder Unit :=
  shape "CompletionItem" [
    .required "label" string,
    .optional "labelDetails" (shape "CompletionItemLabelDetails"
      [.optional "detail" string, .optional "description" string]),
    .optional "kind" signed32,
    .optional "detail" string,
    .optional "documentation" (documentation "Documentation"),
    .optional "deprecated" boolean,
    .optional "preselect" boolean,
    .optional "sortText" string,
    .optional "filterText" string,
    .optional "insertText" string,
    .optional "insertTextFormat" signed32,
    .optional "insertTextMode" signed32,
    .optional "textEdit" (form "CompletionTextEdit" [textEdit, insertReplaceEdit]),
    .optional "additionalTextEdits" (list textEdit),
    .optional "command" command,
    .optional "commitCharacters" (list string),
    .optional "data" any,
    .optional "tags" (list signed32)]

/-- Help with the parameters of a call. -/
def signatureHelp : Decoder Unit :=
  shape "SignatureHelp" [
    .required "signatures" (list (shape "SignatureInformation" [
      .required "label" string,
      .optional "documentation" (documentation "Documentation"),
      .optional "parameters" (list (shape "ParameterInformation" [
        .required "label" (form "ParameterLabel" [check string, check (pair unsigned32)]),
        .optional "documentation" (documentation "Documentation")])),
      .optional "activeParameter" unsigned32])),
    .optional "activeSignature" unsigned32,
    .optional "activeParameter" unsigned32]

/-! ## Symbols -/

/-- A symbol of the workspace, whose range may be left out. -/
def workspaceSymbol : Decoder Unit :=
  shape "WorkspaceSymbol" [
    .required "name" string,
    .required "kind" signed32,
    .optional "tags" (list signed32),
    .optional "containerName" string,
    .required "location"
      (form "OneOf" [location, shape "WorkspaceLocation" [.required "uri" uri]]),
    .optional "data" any]

/-- A symbol of a hierarchy, with tags of some shape. -/
def hierarchyItem {α : Type} (name : String) (tags : Decoder α) : Decoder Unit :=
  shape name [
    .required "name" string,
    .required "kind" signed32,
    .optional "tags" tags,
    .optional "detail" string,
    .required "uri" uri,
    .required "range" range,
    .required "selectionRange" range,
    .optional "data" any]

/-! ## Formatting -/

/-- The options of formatting that have a meaning. -/
def formattingFields : List Field := [
  .required "tabSize" unsigned32,
  .required "insertSpaces" boolean,
  .optional "trimTrailingWhitespace" boolean,
  .optional "insertFinalNewline" boolean,
  .optional "trimFinalNewlines" boolean]

/-- The options of formatting.  Those without a meaning have simple values. -/
def formattingOptions : Decoder Unit := fun value => do
  let members ← sharedRecord "FormattingOptions" [formattingFields] value
  let others := members.filter fun (key, _) => !formattingFields.any (·.key == key)
  checkEntries any (form "FormattingProperty" [check boolean, check signed32, check string]) others

/-- A colour. -/
def color : Decoder Unit :=
  shape "Color" (["red", "green", "blue", "alpha"].map fun part => .required part (number "f32"))

end GotoDefinition.Shape
