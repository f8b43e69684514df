import GotoDefinition.Proofs.Index.Search
import GotoDefinition.Proofs.Json.Members
import GotoDefinition.Proofs.Server.Documents

/-!
# Where definition requests lead

An answer to a definition request is followed back through all that made it: the open
document and the word under the cursor, the candidates among the symbols of the index, the
texts these symbols were scanned from, and the JSON in which the client gets their places.
-/

namespace GotoDefinition

namespace Server

/-! ## Places of an answer -/

/-- The places that a client reads off an answer, each of them a URI and a range: the
targets of links if it understands them, and else what the answer lists. -/
def placesJson? (support : ClientSupport) : Json → Option (List (Json × Json))
  | .array entries =>
    some (entries.map fun entry =>
      if support.linkSupport then (entry.getD "targetUri", entry.getD "targetRange")
      else (entry.getD "uri", entry.getD "range"))
  | _ => none

/-- A client reads the same places in the same order whether or not it understands links. -/
theorem placesJson?_definitionJson (support : ClientSupport) (links : List Link) :
    placesJson? support (definitionJson support (some links)) =
      some (links.map fun link => (link.uri.toJson, link.target.toJson)) := by
  rw [definitionJson, placesJson?, List.map_map]
  congr 2
  funext link
  cases understood : support.linkSupport with
  | true =>
    cases origin : link.origin <;>
      simp [Link.toJson, origin, Json.getD, Json.get?_ofMembers, List.lookup_cons]
  | false =>
    simp [locationJson, Json.getD, Json.get?_ofMembers, List.lookup_cons]

/-! ## Questions -/

variable {server : Server} {uri : Uri} {position : Position}

theorem queryAt?_eq_some_iff (query : Query) :
    server.queryAt? uri position = some query ↔
      ∃ document line word,
        server.documents.get? uri = some document ∧
        document.languageId ∈ server.settings.enabledLanguages ∧
        document.text.lineAt position.line = some line ∧
        line.wordAt? position.character = some word ∧
        { word := word.text, line, position } = query := by
  cases isOpen : server.documents.get? uri with
  | none => simp [queryAt?, isOpen]
  | some document =>
    by_cases enabled : document.languageId ∈ server.settings.enabledLanguages
    · simp [queryAt?, isOpen, Settings.isEnabled, enabled, Option.bind_eq_some_iff]
    · simp [queryAt?, isOpen, Settings.isEnabled, enabled]

/-- The built-in index never fails, so a request has links unless a step on the way to them
has nothing to go on with. -/
theorem definition_eq_ok_some_iff (builtIn : server.source = .workspace) (links : List Link) :
    server.definition uri position = .ok (some links) ↔
      links ≠ [] ∧ ∃ query, server.queryAt? uri position = some query ∧
        server.settings.variant.minimumLength ≤ query.word.utf16Length ∧
        Resolver.links? server.compiler server.settings.variant query
          (server.index.search query.word) = some links := by
  rw [definition]
  cases asked : server.queryAt? uri position with
  | none => simp
  | some query =>
    have searched : server.search query.word = .ok (server.index.search query.word) := by
      rw [search, builtIn]
    have filtered : (Resolver.resolve server.compiler server.settings.variant query
        server.search).map (·.filter fun links => !links.isEmpty) = .ok (some links) ↔
        links ≠ [] ∧ Resolver.resolve server.compiler server.settings.variant query
          server.search = .ok (some links) := by
      cases Resolver.resolve server.compiler server.settings.variant query server.search with
      | error reason => simp [Except.map]
      | ok found => simp [Except.map, Option.filter_eq_some_iff, and_comm]
    rw [filtered, Resolver.resolve_eq_ok_some_iff, searched]
    simp

/-- An answer does not depend on what the client can do, except for its form. -/
theorem answerDefinition_response {params : Option Json}
    (asked : readParams decodeDefinitionPlace params = .ok (uri, position))
    {links : Option (List Link)} (found : server.definition uri position = .ok links)
    (support : ClientSupport) (id : Json) :
    ({ server with support }.answerDefinition id params).response =
      some { id, outcome := .ok (definitionJson support links) } := by
  have sameLinks : { server with support }.definition uri position = .ok links := found
  simp only [answerDefinition, asked, sameLinks]
  rfl

theorem definition_of_answered {params : Option Json}
    (asked : readParams decodeDefinitionPlace params = .ok (uri, position)) {id result : Json}
    (answered : (server.answerDefinition id params).response =
      some { id, outcome := .ok result }) :
    ∃ links, server.definition uri position = .ok links ∧
      definitionJson server.support links = result := by
  cases found : server.definition uri position with
  | error reason =>
    simp [answerDefinition, asked, found, Server.answered] at answered
  | ok links =>
    have response := answerDefinition_response asked found server.support id
    rw [answered] at response
    refine ⟨links, rfl, ?_⟩
    simpa using response.symm

/-! ## Targets -/

/-- What makes a symbol a place to go to from a word on a line. -/
structure DefinitionOf (server : Server) (line word : Text) (symbol : Symbol) : Prop where
  isMethod : symbol.kind = SymbolKind.method
  held : ∃ symbols, server.index.symbols.get? symbol.uri = some symbols ∧ symbol ∈ symbols
  named : word <:+: symbol.name
  onLine : server.settings.variant = .strict → symbol.name <:+: line
  spelled : ∀ document, server.documents.get? symbol.uri = some document →
    document.text.Spells symbol.range symbol.name

/-- The index files every symbol under the URI that the symbol carries. -/
theorem Recorded.get?_uri_of_mem_allSymbols {history : List IndexEvent}
    (recorded : Recorded server history) {symbol : Symbol}
    (member : symbol ∈ server.index.allSymbols) :
    ∃ symbols, server.index.symbols.get? symbol.uri = some symbols ∧ symbol ∈ symbols := by
  rw [recorded.index_eq] at member ⊢
  obtain ⟨content, entry, isSymbol⟩ := Index.exists_content_of_mem_allSymbols member
  exact ⟨content.symbols symbol.uri, entry, isSymbol⟩

theorem Recorded.definitionOf {history : List IndexEvent} (recorded : Recorded server history)
    {query : Query} {symbol : Symbol} (searched : symbol ∈ server.index.search query.word)
    (candidate : Resolver.isCandidate server.settings.variant query symbol = true) :
    server.DefinitionOf query.line query.word symbol := by
  obtain ⟨isMethod, named, onLine⟩ := (Resolver.isCandidate_iff symbol).1 candidate
  obtain ⟨symbols, entry, isSymbol⟩ :=
    recorded.get?_uri_of_mem_allSymbols (Index.mem_allSymbols_of_mem_search searched)
  refine ⟨isMethod, ⟨symbols, entry, isSymbol⟩, named, onLine, ?_⟩
  intro document isOpen
  -- For an open document the entry is a scan of the very text that is open.
  rw [recorded.get?_symbols isOpen, Option.some.injEq] at entry
  subst entry
  exact Text.spells_of_mem_symbols isSymbol

/-- Links come from a word in an open document and lead, one by one, to symbols. -/
theorem Recorded.definition_spec {history : List IndexEvent} (recorded : Recorded server history)
    (builtIn : server.source = .workspace) {links : List Link}
    (found : server.definition uri position = .ok (some links)) :
    ∃ (document : OpenDocument) (line : Text) (word : Word) (symbols : List Symbol),
      server.documents.get? uri = some document ∧
      document.languageId ∈ server.settings.enabledLanguages ∧
      document.text.lineAt position.line = some line ∧
      line.wordAt? position.character = some word ∧
      server.settings.variant.minimumLength ≤ word.text.utf16Length ∧
      1 ≤ symbols.length ∧ symbols.length ≤ Resolver.ambiguityThreshold ∧
      (∀ symbol ∈ symbols, server.DefinitionOf line word.text symbol) ∧
      links.map (fun link => (link.uri, link.target)) =
        symbols.map fun symbol => (symbol.uri, symbol.range) := by
  obtain ⟨nonempty, query, asked, longEnough, linked⟩ :=
    (definition_eq_ok_some_iff builtIn links).1 found
  obtain ⟨document, line, word, isOpen, enabled, isLine, isWord, rfl⟩ :=
    (queryAt?_eq_some_iff query).1 asked
  obtain ⟨few, rfl⟩ := (Resolver.links?_eq_some_iff _ links).1 linked
  refine ⟨document, line, word, _, isOpen, enabled, isLine, isWord, longEnough, ?_, few, ?_, ?_⟩
  · exact List.length_pos_iff.2 (fun noCandidate => nonempty (List.map_eq_nil_iff.2 noCandidate))
  · intro symbol member
    obtain ⟨searched, candidate⟩ := List.mem_filter.1 member
    exact recorded.definitionOf searched candidate
  · rw [List.map_map]
    rfl

/-- A definition request that is answered with places, from the built-in index, was made in
an open document of an enabled language on a word that is long enough.  The answer has one to
five places.  They are where the index has methods whose names contain the word, and an open
document spells the name at its place.  Whether or not the client understands links, it reads
the same places in the same order. -/
theorem answerDefinition_sound (reachable : Reachable server)
    (builtIn : server.source = .workspace) {id : Json} {params : Option Json}
    (asked : readParams decodeDefinitionPlace params = .ok (uri, position)) {result : Json}
    (answered : (server.answerDefinition id params).response = some { id, outcome := .ok result })
    (notNull : result.isNull = false) :
    ∃ (document : OpenDocument) (line : Text) (word : Word) (symbols : List Symbol),
      server.documents.get? uri = some document ∧
      document.languageId ∈ server.settings.enabledLanguages ∧
      document.text.lineAt position.line = some line ∧
      line.wordAt? position.character = some word ∧
      server.settings.variant.minimumLength ≤ word.text.utf16Length ∧
      1 ≤ symbols.length ∧ symbols.length ≤ 5 ∧
      (∀ symbol ∈ symbols, server.DefinitionOf line word.text symbol) ∧
      placesJson? server.support result =
        some (symbols.map fun symbol => (symbol.uri.toJson, symbol.range.toJson)) ∧
      ∀ support, ∃ reshaped,
        ({ server with support }.answerDefinition id params).response =
          some { id, outcome := .ok reshaped } ∧
        placesJson? support reshaped = placesJson? server.support result := by
  obtain ⟨history, recorded⟩ := reachable.recorded
  obtain ⟨links, found, rfl⟩ := definition_of_answered asked answered
  cases links with
  | none => cases notNull
  | some links =>
    obtain ⟨document, line, word, symbols, isOpen, enabled, isLine, isWord, longEnough, atLeastOne,
      few, definitions, places⟩ := recorded.definition_spec builtIn found
    have read : ∀ support, placesJson? support (definitionJson support (some links)) =
        some (symbols.map fun symbol => (symbol.uri.toJson, symbol.range.toJson)) := by
      intro support
      have encoded := congrArg (List.map fun place => (Uri.toJson place.1, Range.toJson place.2)) places
      rw [List.map_map, List.map_map] at encoded
      rw [placesJson?_definitionJson]
      exact congrArg some encoded
    refine ⟨document, line, word, symbols, isOpen, enabled, isLine, isWord, longEnough, atLeastOne,
      few, definitions, read server.support, ?_⟩
    intro support
    refine ⟨_, answerDefinition_response asked found support id, ?_⟩
    rw [read support, read server.support]

def question (uri : String) (position : Position) : Json :=
  .ofMembers [("textDocument", .ofMembers [("uri", .string uri)]), ("position", position.toJson)]

/-- From one document into another, where the name stands behind a character of two units. -/
theorem answerDefinition_sound_across_documents :
    ∃ server result, Reachable server ∧
      (server.answerDefinition (.nat 1) (some (question "file:///b.rs" ⟨0, 1⟩))).response =
        some { id := .nat 1, outcome := .ok result } ∧
      result.isNull = false ∧
      ∃ (line : Text) (word : Word) (symbols : List Symbol),
        1 ≤ symbols.length ∧ symbols.length ≤ 5 ∧
        (∀ symbol ∈ symbols, server.DefinitionOf line word.text symbol) ∧
        placesJson? server.support result =
          some (symbols.map fun symbol => (symbol.uri.toJson, symbol.range.toJson)) := by
  let asking : Uri := ⟨"file:///b.rs".toList⟩
  let link : Link :=
    { origin := some ⟨⟨0, 0⟩, ⟨0, 3⟩⟩, uri := ⟨"file:///a.rs".toList⟩
      target := ⟨⟨0, 12⟩, ⟨0, 15⟩⟩, selection := ⟨⟨0, 12⟩, ⟨0, 15⟩⟩ }
  obtain ⟨server, conversation, evaluated⟩ : ∃ server,
      (connectedTo { enabledLanguages := some ["rust"] }).converse [(nowhere, greeting),
        (nowhere, opening "file:///a.rs" "/* 𝔸 */ fn run() \x7b\x7d"),
        (nowhere, opening "file:///b.rs" "run()")] = some server ∧
      (server.searchesOwnIndex &&
        decide (server.definition asking ⟨0, 1⟩ = .ok (some [link]))) = true :=
    (Option.any_eq_true _ _).1 (by decide +kernel)
  obtain ⟨ownIndex, isFound⟩ := Bool.and_eq_true_iff.1 evaluated
  have builtIn := source_eq_of_searchesOwnIndex ownIndex
  have asked : readParams decodeDefinitionPlace (some (question "file:///b.rs" ⟨0, 1⟩)) =
      .ok (asking, ⟨0, 1⟩) :=
    eq_ok_of_toOption (by decide +kernel)
  have reachable : Reachable server := .converse (.connected _ .standard) conversation
  have answered := answerDefinition_response asked (of_decide_eq_true isFound) server.support (.nat 1)
  obtain ⟨-, line, word, symbols, -, -, -, -, -, atLeastOne, few, definitions, places, -⟩ :=
    answerDefinition_sound reachable builtIn asked answered rfl
  exact ⟨server, _, reachable, answered, rfl, line, word, symbols, atLeastOne, few, definitions,
    places⟩

end Server

end GotoDefinition
