import GotoDefinition.Server.Shapes

/-!
# Requests that are not offered

The protocol knows more requests than the server answers.  Their parameters are checked
before they are refused, so that a client learns of malformed ones first.
-/

namespace GotoDefinition.Refused

open Json (Decoder)
open Json.Decode

/-! ## Groups of fields -/

/-- The document of a request. -/
def document : Field :=
  .required "textDocument" decodeDocument

/-- The range of a request. -/
def range : Field :=
  .required "range" Shape.range

/-- Options of formatting. -/
def options : Field :=
  .required "options" Shape.formattingOptions

/-- What a request about a place has besides the place. -/
def place (name : String) (fields : List Field) (groups : List (List Field)) : Decoder Unit :=
  sharedShape name ([fields, placeFields] ++ groups)

/-- What any other request has besides the names for its progress. -/
def other (name : String) (fields : List Field) (groups : List (List Field)) : Decoder Unit :=
  sharedShape name ([fields] ++ groups)

/-- The fields about the progress of a request whose results come at once. -/
def atOnce : List (List Field) := [workFields]

/-- The fields about the progress of a request whose results may come bit by bit. -/
def bitByBit : List (List Field) := [workFields, resultFields]

/-! ## The requests -/

/-- Requests about a place in a document. -/
def atPlaces : List (String × Decoder Unit) := [
  ("textDocument/completion", place "CompletionParams"
    [.optional "context" (shape "CompletionContext"
      [.required "triggerKind" signed32, .optional "triggerCharacter" string])] bitByBit),
  ("textDocument/declaration", place "GotoDefinitionParams" [] bitByBit),
  ("textDocument/documentHighlight", place "DocumentHighlightParams" [] bitByBit),
  ("textDocument/hover", place "HoverParams" [] atOnce),
  ("textDocument/implementation", place "GotoDefinitionParams" [] bitByBit),
  ("textDocument/linkedEditingRange", place "LinkedEditingRangeParams" [] atOnce),
  ("textDocument/moniker", place "MonikerParams" [] bitByBit),
  ("textDocument/onTypeFormatting", place "DocumentOnTypeFormattingParams"
    [.required "ch" string, options] []),
  ("textDocument/prepareCallHierarchy", place "CallHierarchyPrepareParams" [] atOnce),
  ("textDocument/prepareRename", shape "TextDocumentPositionParams"
    [document, .required "position" Shape.position]),
  ("textDocument/prepareTypeHierarchy", place "TypeHierarchyPrepareParams" [] atOnce),
  ("textDocument/references", place "ReferenceParams"
    [.required "context" (shape "ReferenceContext" [.required "includeDeclaration" boolean])]
    bitByBit),
  ("textDocument/rename", place "RenameParams" [.required "newName" string] atOnce),
  ("textDocument/signatureHelp", place "SignatureHelpParams"
    [.optional "context" (shape "SignatureHelpContext" [
      .required "triggerKind" signed32,
      .optional "triggerCharacter" string,
      .required "isRetrigger" boolean,
      .optional "activeSignatureHelp" Shape.signatureHelp])] atOnce),
  ("textDocument/typeDefinition", place "GotoDefinitionParams" [] bitByBit)]

/-- Requests about a document. -/
def forDocuments : List (String × Decoder Unit) := [
  ("textDocument/codeAction", other "CodeActionParams"
    [document, range, .required "context" (shape "CodeActionContext" [
      .required "diagnostics" (list Shape.diagnostic),
      .optional "only" (list string),
      .optional "triggerKind" signed32])] bitByBit),
  ("textDocument/codeLens", other "CodeLensParams" [document] bitByBit),
  ("textDocument/colorPresentation", other "ColorPresentationParams"
    [document, .required "color" Shape.color, range] bitByBit),
  ("textDocument/diagnostic", other "DocumentDiagnosticParams"
    [document, .optional "identifier" string, .optional "previousResultId" string] bitByBit),
  ("textDocument/documentColor", other "DocumentColorParams" [document] bitByBit),
  ("textDocument/documentLink", other "DocumentLinkParams" [document] bitByBit),
  ("textDocument/documentSymbol", other "DocumentSymbolParams" [document] bitByBit),
  ("textDocument/foldingRange", other "FoldingRangeParams" [document] bitByBit),
  ("textDocument/formatting", other "DocumentFormattingParams" [document, options] atOnce),
  ("textDocument/inlayHint", other "InlayHintParams" [document, range] atOnce),
  ("textDocument/inlineValue", other "InlineValueParams"
    [document, range, .required "context" (shape "InlineValueContext"
      [.required "frameId" signed32, .required "stoppedLocation" Shape.range])] atOnce),
  ("textDocument/rangeFormatting", other "DocumentRangeFormattingParams"
    [document, range, options] atOnce),
  ("textDocument/selectionRange", other "SelectionRangeParams"
    [document, .required "positions" (list Shape.position)] bitByBit),
  ("textDocument/semanticTokens/full", other "SemanticTokensParams" [document] bitByBit),
  ("textDocument/semanticTokens/full/delta", other "SemanticTokensDeltaParams"
    [document, .required "previousResultId" string] bitByBit),
  ("textDocument/semanticTokens/range", other "SemanticTokensRangeParams"
    [document, range] bitByBit),
  ("textDocument/willSaveWaitUntil", shape "WillSaveTextDocumentParams"
    [document, .required "reason" signed32])]

/-- Requests about the workspace. -/
def forWorkspaces : List (String × Decoder Unit) := [
  ("workspace/diagnostic", other "WorkspaceDiagnosticParams" [
    .optional "identifier" string,
    .required "previousResultIds" (list (shape "PreviousResultId"
      [.required "uri" uri, .required "value" string]))] bitByBit),
  ("workspace/executeCommand", other "ExecuteCommandParams"
    [.required "command" string, .defaulted "arguments" (list any)] atOnce),
  ("workspace/willCreateFiles", shape "CreateFilesParams"
    [.required "files" (list (shape "FileCreate" [.required "uri" string]))]),
  ("workspace/willDeleteFiles", shape "DeleteFilesParams"
    [.required "files" (list (shape "FileDelete" [.required "uri" string]))]),
  ("workspace/willRenameFiles", shape "RenameFilesParams"
    [.required "files" (list (shape "FileRename"
      [.required "oldUri" string, .required "newUri" string]))])]

/-- A symbol in a hierarchy of calls. -/
def callItem : Field :=
  .required "item" (Shape.hierarchyItem "CallHierarchyItem" (list signed32))

/-- A symbol in a hierarchy of types. -/
def typeItem : Field :=
  .required "item" (Shape.hierarchyItem "TypeHierarchyItem" signed32)

/-- Requests about what an earlier request answered. -/
def forAnswers : List (String × Decoder Unit) := [
  ("callHierarchy/incomingCalls", other "CallHierarchyIncomingCallsParams" [callItem] bitByBit),
  ("callHierarchy/outgoingCalls", other "CallHierarchyOutgoingCallsParams" [callItem] bitByBit),
  ("codeAction/resolve", Shape.codeAction),
  ("codeLens/resolve", Shape.codeLens),
  ("completionItem/resolve", Shape.completionItem),
  ("documentLink/resolve", Shape.documentLink),
  ("inlayHint/resolve", Shape.inlayHint),
  ("typeHierarchy/subtypes", other "TypeHierarchySubtypesParams" [typeItem] bitByBit),
  ("typeHierarchy/supertypes", other "TypeHierarchySupertypesParams" [typeItem] bitByBit),
  ("workspaceSymbol/resolve", Shape.workspaceSymbol)]

/-- The shape of the parameters of a request that is not offered, none for any other
name. -/
def params? (method : String) : Option (Decoder Unit) :=
  (atPlaces ++ forDocuments ++ forWorkspaces ++ forAnswers).lookup method

end GotoDefinition.Refused
