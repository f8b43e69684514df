import GotoDefinition.Json.Decode

/-!
# What a client can do

A client announces its abilities in groups.  Only two of them matter to the server, and
the others must have the right shape all the same, since a group that cannot be read
makes the whole announcement unreadable.
-/

namespace GotoDefinition

open Json (Decoder)
open Json.Decode

/-- What the client can do. -/
structure ClientSupport where
  /-- It accepts the registration of the definition provider while running. -/
  dynamicDefinition : Bool
  /-- It understands links as answers to definition requests. -/
  linkSupport : Bool
deriving DecidableEq, Repr

namespace ClientSupport

/-! ## Shapes that several groups share -/

/-- An ability that is there or not. -/
def flag (key : String) : Field :=
  .optional key boolean

/-- An ability that can be registered while running. -/
def dynamicFlag : Field :=
  flag "dynamicRegistration"

/-- A group of abilities that are there or not. -/
def flags (name : String) (keys : List String) : Decoder Unit :=
  shape name (keys.map flag)

/-- A group that says nothing but whether it can be registered while running. -/
def registration : Decoder Unit :=
  flags "DynamicRegistrationClientCapabilities" ["dynamicRegistration"]

/-- A group that says nothing but whether its results can be asked for anew. -/
def refreshing (name : String) : Decoder Unit :=
  flags name ["refreshSupport"]

/-- The kinds of symbols that the client knows. -/
def symbolKinds : Decoder Unit :=
  shape "SymbolKindCapability" [.optional "valueSet" (list signed32)]

/-- The tags that the client knows.  Some clients just say that there are any. -/
def tags : Decoder Unit
  | .null | .bool _ => .ok ()
  | other => shape "TagSupport" [.required "valueSet" (list signed32)] other

/-- The properties that the client can ask for later. -/
def laterProperties (name : String) : Decoder Unit :=
  shape name [.required "properties" (list string)]

/-- The formats of documentation that the client can show. -/
def formats : Decoder (List Unit) :=
  list (name ["plaintext", "markdown"])

/-! ## The workspace -/

/-- Edits of several documents at once. -/
def workspaceEdits : Decoder Unit :=
  shape "WorkspaceEditClientCapabilities" [
    flag "documentChanges",
    .optional "resourceOperations" (list (name ["create", "rename", "delete"])),
    .optional "failureHandling" (name ["abort", "transactional", "textOnlyTransactional", "undo"]),
    flag "normalizesLineEndings",
    .optional "changeAnnotationSupport"
      (flags "ChangeAnnotationWorkspaceEditClientCapabilities" ["groupsOnLabel"])]

/-- Symbols of the workspace. -/
def workspaceSymbols : Decoder Unit :=
  shape "WorkspaceSymbolClientCapabilities" [
    dynamicFlag,
    .optional "symbolKind" symbolKinds,
    .defaulted "tagSupport" tags,
    .optional "resolveSupport" (laterProperties "WorkspaceSymbolResolveSupportCapability")]

/-- The workspace. -/
def workspace : Decoder Unit :=
  shape "WorkspaceClientCapabilities" [
    flag "applyEdit",
    .optional "workspaceEdit" workspaceEdits,
    .optional "didChangeConfiguration" registration,
    .optional "didChangeWatchedFiles" (flags "DidChangeWatchedFilesClientCapabilities"
      ["dynamicRegistration", "relativePatternSupport"]),
    .optional "symbol" workspaceSymbols,
    .optional "executeCommand" registration,
    flag "workspaceFolders",
    flag "configuration",
    .optional "semanticTokens" (refreshing "SemanticTokensWorkspaceClientCapabilities"),
    .optional "codeLens" (refreshing "CodeLensWorkspaceClientCapabilities"),
    .optional "fileOperations" (flags "WorkspaceFileOperationsClientCapabilities"
      ["dynamicRegistration", "didCreate", "willCreate", "didRename", "willRename", "didDelete",
        "willDelete"]),
    .optional "inlineValue" (refreshing "InlineValueWorkspaceClientCapabilities"),
    .optional "inlayHint" (refreshing "InlayHintWorkspaceClientCapabilities"),
    .optional "diagnostic" (refreshing "DiagnosticWorkspaceClientCapabilities")]

/-! ## Documents -/

/-- A single proposal of how to go on. -/
def completionItem : Decoder Unit :=
  shape "CompletionItemCapability" [
    flag "snippetSupport",
    flag "commitCharactersSupport",
    .optional "documentationFormat" formats,
    flag "deprecatedSupport",
    flag "preselectSupport",
    .defaulted "tagSupport" tags,
    flag "insertReplaceSupport",
    .optional "resolveSupport" (laterProperties "CompletionItemCapabilityResolveSupport"),
    .optional "insertTextModeSupport"
      (shape "InsertTextModeSupport" [.required "valueSet" (list signed32)]),
    flag "labelDetailsSupport"]

/-- Proposals of how to go on. -/
def completion : Decoder Unit :=
  shape "CompletionClientCapabilities" [
    dynamicFlag,
    .optional "completionItem" completionItem,
    .optional "completionItemKind"
      (shape "CompletionItemKindCapability" [.optional "valueSet" (list signed32)]),
    flag "contextSupport",
    .optional "insertTextMode" signed32,
    .optional "completionList"
      (shape "CompletionListCapability" [.optional "itemDefaults" (list string)])]

/-- Help with the parameters of a call. -/
def signatureHelp : Decoder Unit :=
  shape "SignatureHelpClientCapabilities" [
    dynamicFlag,
    .optional "signatureInformation" (shape "SignatureInformationSettings" [
      .optional "documentationFormat" formats,
      .optional "parameterInformation" (flags "ParameterInformationSettings" ["labelOffsetSupport"]),
      flag "activeParameterSupport"]),
    flag "contextSupport"]

/-- Symbols of a document. -/
def documentSymbols : Decoder Unit :=
  shape "DocumentSymbolClientCapabilities" [
    dynamicFlag,
    .optional "symbolKind" symbolKinds,
    flag "hierarchicalDocumentSymbolSupport",
    .defaulted "tagSupport" tags]

/-- Going to another place. -/
def going : Decoder Unit :=
  flags "GotoCapability" ["dynamicRegistration", "linkSupport"]

/-- Actions on a piece of code. -/
def codeActions : Decoder Unit :=
  shape "CodeActionClientCapabilities" [
    dynamicFlag,
    .optional "codeActionLiteralSupport" (shape "CodeActionLiteralSupport" [
      .required "codeActionKind"
        (shape "CodeActionKindLiteralSupport" [.required "valueSet" (list string)])]),
    flag "isPreferredSupport",
    flag "disabledSupport",
    flag "dataSupport",
    .optional "resolveSupport" (laterProperties "CodeActionCapabilityResolveSupport"),
    flag "honorsChangeAnnotations"]

/-- Renaming of symbols. -/
def rename : Decoder Unit :=
  shape "RenameClientCapabilities" [
    dynamicFlag,
    flag "prepareSupport",
    .optional "prepareSupportDefaultBehavior" signed32,
    flag "honorsChangeAnnotations"]

/-- Diagnostics that the server sends. -/
def publishedDiagnostics : Decoder Unit :=
  shape "PublishDiagnosticsClientCapabilities" [
    flag "relatedInformation",
    .defaulted "tagSupport" tags,
    flag "versionSupport",
    flag "codeDescriptionSupport",
    flag "dataSupport"]

/-- Ranges that can be folded. -/
def folding : Decoder Unit :=
  shape "FoldingRangeClientCapabilities" [
    dynamicFlag,
    .optional "rangeLimit" unsigned32,
    flag "lineFoldingOnly",
    .optional "foldingRangeKind" (shape "FoldingRangeKindCapability"
      [.optional "valueSet" (list (name ["comment", "imports", "region"]))]),
    .optional "foldingRange" (flags "FoldingRangeCapability" ["collapsedText"])]

/-- Tokens with a meaning. -/
def semanticTokens : Decoder Unit :=
  shape "SemanticTokensClientCapabilities" [
    dynamicFlag,
    .required "requests" (shape "SemanticTokensClientCapabilitiesRequests" [
      flag "range",
      .optional "full" (form "SemanticTokensFullOptions"
        [check boolean, sharedShape "SemanticTokensFullOptions" [[flag "delta"]]])]),
    .required "tokenTypes" (list string),
    .required "tokenModifiers" (list string),
    .required "formats" (list string),
    flag "overlappingTokenSupport",
    flag "multilineTokenSupport",
    flag "serverCancelSupport",
    flag "augmentsSyntaxTokens"]

/-- Hints between the characters. -/
def inlayHints : Decoder Unit :=
  shape "InlayHintClientCapabilities" [
    dynamicFlag,
    .optional "resolveSupport" (laterProperties "InlayHintResolveClientCapabilities")]

/-- What the client says about definition requests. -/
def decodeDefinition : Decoder ClientSupport := fun value => do
  let members ← record "GotoCapability" [dynamicFlag, flag "linkSupport"] value
  return {
    dynamicDefinition := (← member? members "dynamicRegistration" boolean).getD false
    linkSupport := (← member? members "linkSupport" boolean).getD false }

/-- What the client says about documents. -/
def decodeDocuments : Decoder (Option ClientSupport) := fun value => do
  let members ← record "TextDocumentClientCapabilities" [
    .optional "synchronization" (flags "TextDocumentSyncClientCapabilities"
      ["dynamicRegistration", "willSave", "willSaveWaitUntil", "didSave"]),
    .optional "completion" completion,
    .optional "hover"
      (shape "HoverClientCapabilities" [dynamicFlag, .optional "contentFormat" formats]),
    .optional "signatureHelp" signatureHelp,
    .optional "references" registration,
    .optional "documentHighlight" registration,
    .optional "documentSymbol" documentSymbols,
    .optional "formatting" registration,
    .optional "rangeFormatting" registration,
    .optional "onTypeFormatting" registration,
    .optional "declaration" going,
    .optional "definition" decodeDefinition,
    .optional "typeDefinition" going,
    .optional "implementation" going,
    .optional "codeAction" codeActions,
    .optional "codeLens" registration,
    .optional "documentLink"
      (flags "DocumentLinkClientCapabilities" ["dynamicRegistration", "tooltipSupport"]),
    .optional "colorProvider" registration,
    .optional "rename" rename,
    .optional "publishDiagnostics" publishedDiagnostics,
    .optional "foldingRange" folding,
    .optional "selectionRange" (flags "SelectionRangeClientCapabilities" ["dynamicRegistration"]),
    .optional "linkedEditingRange" registration,
    .optional "callHierarchy" registration,
    .optional "semanticTokens" semanticTokens,
    .optional "moniker" registration,
    .optional "typeHierarchy" registration,
    .optional "inlineValue" registration,
    .optional "inlayHint" inlayHints,
    .optional "diagnostic"
      (flags "DiagnosticClientCapabilities" ["dynamicRegistration", "relatedDocumentSupport"])] value
  member? members "definition" decodeDefinition

/-! ## The rest, and everything together -/

/-- The window. -/
def window : Decoder Unit :=
  shape "WindowClientCapabilities" [
    flag "workDoneProgress",
    .optional "showMessage" (shape "ShowMessageRequestClientCapabilities" [
      .optional "messageActionItem"
        (flags "MessageActionItemCapabilities" ["additionalPropertiesSupport"])]),
    .optional "showDocument" (shape "ShowDocumentClientCapabilities" [.required "support" boolean])]

/-- What belongs to no other group. -/
def general : Decoder Unit :=
  shape "GeneralClientCapabilities" [
    .optional "regularExpressions" (shape "RegularExpressionsClientCapabilities"
      [.required "engine" string, .optional "version" string]),
    .optional "markdown" (shape "MarkdownClientCapabilities" [
      .required "parser" string,
      .optional "version" string,
      .optional "allowedTags" (list string)]),
    .optional "staleRequestSupport" (shape "StaleRequestSupportClientCapabilities"
      [.required "cancel" boolean, .required "retryOnContentModified" (list string)]),
    .optional "positionEncodings" (list string)]

/-- What the client says it can do; what it does not mention it cannot do. -/
def decode : Decoder ClientSupport := fun value => do
  let members ← record "ClientCapabilities" [
    .optional "workspace" workspace,
    .optional "textDocument" decodeDocuments,
    .optional "window" window,
    .optional "general" general,
    .optional "offsetEncoding" (list string),
    .optional "experimental" any] value
  let documents ← member? members "textDocument" decodeDocuments
  return (documents.bind id).getD { dynamicDefinition := false, linkSupport := false }

end ClientSupport

end GotoDefinition
