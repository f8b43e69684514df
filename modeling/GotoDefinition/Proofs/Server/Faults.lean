import GotoDefinition.Proofs.Disk.Paths
import GotoDefinition.Proofs.Server.Definition
import GotoDefinition.Proofs.Text.Faults

/-!
# Handling messages without faults

Opening and changing documents, scanning a workspace and answering definition requests are written
out once more, under the names they have without checks, with every step on texts that could fail.
None of them does, and each handler comes to what it comes to without the checks
(`texts_never_fault`).
-/

namespace GotoDefinition

/-! ## Files that fit -/

def DiskEntry.fits : DiskEntry → Bool
  | .directory => true
  | .file content => content.length < limit32

/-- Every file on the disk is shorter than `2 ^ 32` bytes. -/
def Disk.FilesFit (disk : Disk) : Prop :=
  ∀ entry ∈ disk.entries, entry.2.fits = true

instance (disk : Disk) : Decidable disk.FilesFit :=
  inferInstanceAs (Decidable (∀ entry ∈ disk.entries, _))

theorem Disk.FilesFit.text {disk : Disk} (filesFit : disk.FilesFit) {path : Path} {bytes : Bytes}
    (readable : disk.read path = .ok bytes) {content : Text}
    (isText : Text.ofUtf8? bytes = some content) : content.Fits := by
  obtain ⟨location, -, entry⟩ := read_eq_ok_iff.1 readable
  have member : (location, .file bytes) ∈ disk.entries := mem_of_entry? entry
  have small : bytes.length < limit32 := of_decide_eq_true (filesFit _ member)
  rwa [← Text.utf8Bytes_of_ofUtf8? isText, Text.length_utf8Bytes] at small

namespace Checked

/-! ## The index -/

def update (index : Index) (uri : Uri) (content : Text) : Checked Index := do
  let symbols ← symbols uri content
  return { symbols := index.symbols.insert uri symbols
           openDocuments := uri :: index.openDocuments.filter (· != uri) }

def scanFile (disk : Disk) (path : Path) : Checked (Except IndexError (Option Scan)) :=
  match disk.read path with
  | .error reason => return .error (.unreadable path reason)
  | .ok bytes =>
    match Text.ofUtf8? bytes, Uri.ofFilePath? path with
    | none, _ => return .error (.notText path)
    | some _, none => return .ok none
    | some content, some uri => do return .ok (some { uri, symbols := ← symbols uri content })

def indexVisit (disk : Disk) (maxFileSize : Nat) (state : Index × Nat) (visit : Ignore.Visit) :
    Checked (Index × Nat) := do
  let (index, count) := state
  if maxFileSize < visit.content.length then return (index, count)
  match ← scanFile disk visit.path with
  | .error _ => return (index, count)
  | .ok none => return (index, count + 1)
  | .ok (some scan) => return (index.commit scan, count + 1)

def indexWorkspace (index : Index) (disk : Disk) (root : Path) (maxFileSize : Nat) :
    Checked (Index × Nat) :=
  (Ignore.walk disk root).foldlM (indexVisit disk maxFileSize) (index, 0)

theorem update_eq {content : Text} (fits : content.Fits) (index : Index) (uri : Uri) :
    update index uri content = .ok (index.update uri content) := by
  rw [update, symbols_eq fits]
  rfl

theorem scanFile_eq {disk : Disk} (filesFit : disk.FilesFit) (path : Path) :
    scanFile disk path = .ok (Index.scanFile disk path) := by
  unfold scanFile Index.scanFile
  cases readable : disk.read path with
  | error reason => rfl
  | ok bytes =>
    simp only [Index.scanBytes]
    cases isText : Text.ofUtf8? bytes with
    | none => rfl
    | some content =>
      cases Uri.ofFilePath? path with
      | none => rfl
      | some uri => simp [symbols_eq (filesFit.text readable isText)]

theorem indexVisit_eq {disk : Disk} (filesFit : disk.FilesFit) (maxFileSize : Nat)
    (state : Index × Nat) (visit : Ignore.Visit) :
    indexVisit disk maxFileSize state visit =
      .ok (Index.indexVisit disk maxFileSize state visit) := by
  obtain ⟨index, count⟩ := state
  simp only [indexVisit, scanFile_eq filesFit, Index.indexVisit, Index.indexFile, ok_bind]
  split
  · rfl
  · cases Index.scanFile disk visit.path with
    | error reason => rfl
    | ok scan => cases scan <;> rfl

theorem indexWorkspace_eq {disk : Disk} (filesFit : disk.FilesFit) (index : Index) (root : Path)
    (maxFileSize : Nat) :
    indexWorkspace index disk root maxFileSize =
      .ok (index.indexWorkspace disk root maxFileSize) := by
  have folded (visits : List Ignore.Visit) (state : Index × Nat) :
      visits.foldlM (indexVisit disk maxFileSize) state =
        .ok (visits.foldl (Index.indexVisit disk maxFileSize) state) := by
    induction visits generalizing state with
    | nil => rfl
    | cons visit visits ih =>
      rw [List.foldlM_cons, indexVisit_eq filesFit, ok_bind, ih, List.foldl_cons]
  exact folded _ _

/-! ## Documents -/

def openDocument (server : Server) (params : OpenParams) : Checked (Server × List Sent) := do
  let document : OpenDocument :=
    { text := params.text, languageId := params.languageId, version := params.version }
  let server := { server with
    index := ← update server.index params.uri params.text
    documents := server.documents.insert params.uri document }
  return (server, server.logged .log ("Opened file: " ++ String.ofList params.uri.text))

def changeDocument (server : Server) (params : ChangeParams) : Checked Server :=
  match params.texts.getLast?, server.documents.get? params.uri with
  | some text, some document => do
    return { server with
      index := ← update server.index params.uri text
      documents := server.documents.insert params.uri
        { document with text, version := params.version } }
  | _, _ => return server

theorem openDocument_eq {params : OpenParams} (fits : params.text.Fits) (server : Server) :
    openDocument server params = .ok (server.openDocument params) := by
  rw [openDocument, update_eq fits]
  rfl

theorem changeDocument_eq {params : ChangeParams} (fits : ∀ text ∈ params.texts, text.Fits)
    (server : Server) : changeDocument server params = .ok (server.changeDocument params) := by
  unfold changeDocument Server.changeDocument
  cases last : params.texts.getLast? with
  | none => rfl
  | some text =>
    cases server.documents.get? params.uri with
    | none => rfl
    | some document =>
      simp [update_eq (fits text (List.mem_of_getLast? last))]

/-! ## Definitions -/

def queryAt (server : Server) (uri : Uri) (position : Position) : Checked (Option Query) :=
  match server.documents.get? uri with
  | none => return none
  | some document => do
    if !server.settings.isEnabled document.languageId then return none
    match ← lineAt document.text position.line with
    | none => return none
    | some line =>
      match ← wordAt line position.character with
      | none => return none
      | some word => return some { word := word.text, line, position }

def link (compiler : PatternCompiler) (variant : Variant) (query : Query) (symbol : Symbol) :
    Checked Link := do
  let origin ← match variant with
    | .strict => originRange compiler query.line query.position symbol.name
    | .lenient => pure none
  return { origin, uri := symbol.uri, target := symbol.range, selection := symbol.range }

def links (compiler : PatternCompiler) (variant : Variant) (query : Query)
    (symbols : List Symbol) : Checked (Option (List Link)) :=
  match Resolver.candidates? variant query symbols with
  | none => return none
  | some candidates => some <$> candidates.mapM (link compiler variant query)

def resolve (compiler : PatternCompiler) (variant : Variant) (query : Query)
    (search : Text → Except IndexError (List Symbol)) :
    Checked (Except IndexError (Option (List Link))) :=
  if Resolver.accepts variant query.word then
    match search query.word with
    | .error reason => return .error reason
    | .ok symbols => do return .ok (← links compiler variant query symbols)
  else return .ok none

def definition (server : Server) (uri : Uri) (position : Position) :
    Checked (Except IndexError (Option (List Link))) := do
  match ← queryAt server uri position with
  | none => return .ok none
  | some query =>
    let resolved ← resolve server.compiler server.settings.variant query server.search
    return resolved.map (·.filter fun links => !links.isEmpty)

section

variable {server : Server} {uri : Uri}
  (fits : ∀ document, server.documents.get? uri = some document → document.text.Fits)

include fits

theorem fits_line_of_queryAt? {position : Position} {query : Query}
    (isQuery : server.queryAt? uri position = some query) : query.line.Fits := by
  obtain ⟨document, line, word, isDocument, -, isLine, -, rfl⟩ :=
    (Server.queryAt?_eq_some_iff query).1 isQuery
  exact (fits document isDocument).of_piece (Text.infix_of_lineAt isLine)

theorem queryAt_eq (position : Position) :
    queryAt server uri position = .ok (server.queryAt? uri position) := by
  unfold queryAt Server.queryAt?
  cases isDocument : server.documents.get? uri with
  | none => rfl
  | some document =>
    have textFits := fits document isDocument
    cases isEnabled : server.settings.isEnabled document.languageId with
    | false => simp [isEnabled]
    | true =>
      cases isLine : document.text.lineAt position.line with
      | none => simp [isEnabled, lineAt_eq textFits, isLine]
      | some line =>
        have lineFits := textFits.of_piece (Text.infix_of_lineAt isLine)
        cases isWord : line.wordAt? position.character <;>
          simp [isEnabled, lineAt_eq textFits, isLine, wordAt_eq lineFits, isWord]

end

theorem link_eq {query : Query} (fits : query.line.Fits) (compiler : PatternCompiler)
    (variant : Variant) (symbol : Symbol) :
    link compiler variant query symbol = .ok (Resolver.link compiler variant query symbol) := by
  cases variant with
  | strict => simp [link, originRange_eq fits, Resolver.link]
  | lenient => rfl

theorem links_eq {query : Query} (fits : query.line.Fits) (compiler : PatternCompiler)
    (variant : Variant) (symbols : List Symbol) :
    links compiler variant query symbols =
      .ok (Resolver.links? compiler variant query symbols) := by
  rw [links, Resolver.links?]
  cases Resolver.candidates? variant query symbols with
  | none => rfl
  | some candidates =>
    have all : candidates.mapM (link compiler variant query) =
        .ok (candidates.map (Resolver.link compiler variant query)) := by
      rw [← List.filterMap_eq_map]
      exact mapM_eq fun symbol _ => ⟨_, link_eq fits compiler variant symbol, rfl⟩
    simp [all]

theorem resolve_eq {query : Query} (fits : query.line.Fits) (compiler : PatternCompiler)
    (variant : Variant) (search : Text → Except IndexError (List Symbol)) :
    resolve compiler variant query search =
      .ok (Resolver.resolve compiler variant query search) := by
  unfold resolve Resolver.resolve
  split
  · cases search query.word with
    | error reason => rfl
    | ok symbols => simp [links_eq fits, Except.map]
  · rfl

theorem definition_eq {server : Server} {uri : Uri}
    (fits : ∀ document, server.documents.get? uri = some document → document.text.Fits)
    (position : Position) :
    definition server uri position = .ok (server.definition uri position) := by
  rw [definition, queryAt_eq fits, ok_bind, Server.definition]
  cases isQuery : server.queryAt? uri position with
  | none => rfl
  | some query => simp [resolve_eq (fits_line_of_queryAt? fits isQuery)]

/-! ## Altogether -/

/-- What is done with a text as a document and as a line.  Cuts and columns fail exactly at
offsets inside a character, which can be told from the bytes, and everything else comes to what it
comes to without checks. -/
structure FaultFree (content : Text) : Prop where
  sliceFrom_iff : ∀ offset, (∃ rest, sliceFrom content offset = .ok rest) ↔
    isCharBoundary content.utf8Bytes offset = true
  sliceTo_iff : ∀ offset, (∃ front, sliceTo content offset = .ok front) ↔
    isCharBoundary content.utf8Bytes offset = true
  columnOfByte_iff : ∀ byte fault, columnOfByte content byte = .error fault ↔
    fault = .slice ∧ isCharBoundary content.utf8Bytes (min byte content.utf8Length) = false
  positionAt_iff : ∀ offset fault, positionAt content.lineStarts content offset = .error fault ↔
    fault = .slice ∧ isCharBoundary content.utf8Bytes (min offset content.utf8Length) = false
  lineAt_eq : ∀ n, lineAt content n = .ok (content.lineAt n)
  byteOfColumn_eq : ∀ column, byteOfColumn content column = .ok (content.byteOfColumn column)
  wordAt_eq : ∀ column, wordAt content column = .ok (content.wordAt? column)
  wordAmong_eq : ∀ column spans, MatchesOf content spans →
    wordAmong content column spans = .ok (content.wordAmong? column spans)
  originRange_eq : ∀ compiler position name, originRange compiler content position name =
    .ok (Resolver.originRange? compiler content position name)
  symbols_eq : ∀ uri, symbols uri content = .ok (content.symbols uri)

theorem faultFree {content : Text} (fits : content.Fits) : FaultFree content where
  sliceFrom_iff := exists_sliceFrom_iff content
  sliceTo_iff := exists_sliceTo_iff content
  columnOfByte_iff byte fault := by
    rw [columnOfByte_eq_error_iff fits, ← isCharBoundary_iff, Bool.not_eq_true]
  positionAt_iff offset fault := by
    rw [positionAt_eq_error_iff fits, ← isCharBoundary_iff, Bool.not_eq_true]
  lineAt_eq := lineAt_eq fits
  byteOfColumn_eq := byteOfColumn_eq fits
  wordAt_eq := wordAt_eq fits
  wordAmong_eq column _ matched := wordAmong_eq fits matched column
  originRange_eq := originRange_eq fits
  symbols_eq := symbols_eq fits

/-- No text and no cursor makes a step fail, if texts and files are shorter than `2 ^ 32` bytes:
neither what is done with a single text nor opening and changing documents, scanning a workspace
and asking for a definition. -/
theorem texts_never_fault :
    (∀ content : Text, content.Fits → FaultFree content) ∧
      (∀ (server : Server) (params : OpenParams), params.text.Fits →
        openDocument server params = .ok (server.openDocument params)) ∧
      (∀ (server : Server) (params : ChangeParams), (∀ text ∈ params.texts, text.Fits) →
        changeDocument server params = .ok (server.changeDocument params)) ∧
      (∀ (index : Index) (disk : Disk) (root : Path) (maxFileSize : Nat), disk.FilesFit →
        indexWorkspace index disk root maxFileSize =
          .ok (index.indexWorkspace disk root maxFileSize)) ∧
      ∀ (server : Server) (uri : Uri) (position : Position),
        (∀ document, server.documents.get? uri = some document → document.text.Fits) →
        definition server uri position = .ok (server.definition uri position) :=
  ⟨fun _ => faultFree, fun server _ fits => openDocument_eq fits server,
    fun server _ fits => changeDocument_eq fits server,
    fun index _ root maxFileSize filesFit => indexWorkspace_eq filesFit index root maxFileSize,
    fun _ _ position fits => definition_eq fits position⟩

/-- All three breaks, characters of one, two and four bytes, and a cursor between the two units
of one of them; an offset inside a character does make a step fail. -/
theorem texts_never_fault_at_astral_cursor :
    let content : Text := "é\rfn go\r\n𝔸go".toList
    let uri : Uri := ⟨"file:///w/a".toList⟩
    let server : Server :=
      { documents := UriTable.insert {} uri { text := content, languageId := "rust", version := 1 }
        settings := { enabledLanguages := ["rust"] } }
    let disk := ({} : Disk).write (Path.ofString "/w/a") (.file content.utf8Bytes)
    content.Fits ∧ disk.FilesFit ∧ columnOfByte content 1 = .error .slice ∧
      lineAt content 2 = .ok (some "𝔸go".toList) ∧
      wordAt "𝔸go".toList 1 = .ok (some { text := "𝔸go".toList, start := 0, stop := 4 }) ∧
      indexWorkspace {} disk (Path.ofString "/w") 100 =
        .ok (({} : Index).indexWorkspace disk (Path.ofString "/w") 100) ∧
      definition server uri ⟨2, 1⟩ = .ok (server.definition uri ⟨2, 1⟩) := by
  intro content uri server disk
  have fits : content.Fits := by decide +kernel
  have filesFit : disk.FilesFit := by decide +kernel
  obtain ⟨texts, -, -, workspaces, requests⟩ := texts_never_fault
  have line := (texts content fits).lineAt_eq 2
  have word := (texts "𝔸go".toList (by decide +kernel)).wordAt_eq 1
  refine ⟨fits, filesFit, ?_, ?_, ?_, workspaces {} disk _ 100 filesFit, requests server uri _ ?_⟩
  · exact ((texts content fits).columnOfByte_iff 1 .slice).2 ⟨rfl, by decide +kernel⟩
  · rw [line]
    decide +kernel
  · rw [word]
    decide +kernel
  · intro document isDocument
    obtain rfl := Option.some.inj ((UriTable.get?_insert_self {} uri _).symm.trans isDocument)
    exact fits

end Checked

end GotoDefinition
