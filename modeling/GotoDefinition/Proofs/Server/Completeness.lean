import GotoDefinition.Proofs.Server.Definition
import Mathlib.Data.List.Infix

/-!
# Definition requests that find what they ask for

A method whose name is the word under the cursor passes everything that stands between the index
and the answer: the search, because a name contains itself in lower case too, the check of the
line, because the word is on it, and the limit, because candidates among searched symbols are
candidates among all symbols.
-/

namespace GotoDefinition

/-- A word under the cursor is a part of its line. -/
theorem Text.infix_of_wordAt? {line : Text} {column : Nat} {word : Word}
    (found : line.wordAt? column = some word) : word.text <:+: line := by
  obtain ⟨span, -, isWord⟩ := Option.bind_eq_some_iff.1 found
  simp only [Word.ofSpan?, Option.bind_eq_bind, Option.bind_eq_some_iff] at isWord
  obtain ⟨text, cut, start, -, stop, -, word_eq⟩ := isWord
  obtain rfl := Option.some.inj word_eq
  exact Text.infix_of_slice? cut

/-! ## Candidates -/

namespace Index

/-- A symbol that has the word for its name is a candidate among the searched symbols. -/
theorem mem_candidates_of_name_eq {index : Index} {query : Query} {symbol : Symbol}
    (held : symbol ∈ index.allSymbols)
    (isMethod : symbol.kind = SymbolKind.method) (name_eq : symbol.name = query.word)
    (onLine : query.word <:+: query.line) (variant : Variant) :
    symbol ∈ (index.search query.word).filter (Resolver.isCandidate variant query) := by
  refine List.mem_filter.2 ⟨?_, ?_⟩
  · exact (mem_search_iff _ _ _).2 ⟨held, by simp [name_eq]⟩
  · refine (Resolver.isCandidate_iff symbol).2 ⟨isMethod, by simp [name_eq], ?_⟩
    intro _
    rw [name_eq]
    exact onLine

/-- Candidates among searched symbols are candidates among all symbols. -/
theorem length_candidates_le (index : Index) (variant : Variant) (query : Query) :
    ((index.search query.word).filter (Resolver.isCandidate variant query)).length ≤
      index.allSymbols.countP fun symbol =>
        decide (symbol.kind = SymbolKind.method ∧ query.word <:+: symbol.name ∧
          (variant = .strict → symbol.name <:+: query.line)) := by
  rw [← List.countP_eq_length_filter]
  have sameCandidate : (fun symbol : Symbol => decide (symbol.kind = SymbolKind.method ∧
      query.word <:+: symbol.name ∧ (variant = .strict → symbol.name <:+: query.line))) =
      Resolver.isCandidate variant query := by
    funext symbol
    rw [Bool.eq_iff_iff, decide_eq_true_eq, Resolver.isCandidate_iff]
  rw [sameCandidate]
  exact List.filter_sublist.countP_le

end Index

/-! ## Answers -/

namespace Server

variable {server : Server} {uri : Uri} {position : Position} {query : Query}

/-- With the built-in index a question always has an answer, if only an empty one. -/
theorem definition_of_queryAt? (builtIn : server.source = .workspace)
    (asked : server.queryAt? uri position = some query)
    (longEnough : server.settings.variant.minimumLength ≤ query.word.utf16Length) :
    server.definition uri position =
      .ok ((Resolver.links? server.compiler server.settings.variant query
        (server.index.search query.word)).filter fun links => !links.isEmpty) := by
  have accepted : Resolver.accepts server.settings.variant query.word = true :=
    decide_eq_true longEnough
  have searched : server.search query.word = .ok (server.index.search query.word) := by
    rw [search, builtIn]
  simp only [definition, asked, Resolver.resolve, if_pos accepted, searched]
  rfl

/-- A definition request on a word that is long enough, in an open document of an enabled
language, is answered from the built-in index.  If at most five methods of the whole index could
be meant, every method that has the word for its name is among the places of the answer, and
the places come in the order of documents and declarations.  The answer is not null as soon as
there is such a method. -/
theorem answerDefinition_complete (reachable : Reachable server)
    (builtIn : server.source = .workspace) (id : Json) {params : Option Json}
    (asked : readParams decodeDefinitionPlace params = .ok (uri, position))
    {document : OpenDocument} (isOpen : server.documents.get? uri = some document)
    (enabled : document.languageId ∈ server.settings.enabledLanguages)
    {line : Text} (isLine : document.text.lineAt position.line = some line)
    {word : Word} (isWord : line.wordAt? position.character = some word)
    (longEnough : server.settings.variant.minimumLength ≤ word.text.utf16Length)
    (few : (server.index.allSymbols.countP fun symbol =>
      decide (symbol.kind = SymbolKind.method ∧ word.text <:+: symbol.name ∧
        (server.settings.variant = .strict → symbol.name <:+: line))) ≤ 5) :
    ∃ (result : Json) (targets : List Symbol),
      (server.answerDefinition id params).response = some { id, outcome := .ok result } ∧
      (∀ symbol ∈ server.index.allSymbols, symbol.kind = SymbolKind.method →
        symbol.name = word.text → symbol ∈ targets) ∧
      targets.Pairwise Symbol.Precedes ∧
      (targets ≠ [] → result.isNull = false ∧
        placesJson? server.support result =
          some (targets.map fun symbol => (symbol.uri.toJson, symbol.range.toJson))) := by
  let query : Query := { word := word.text, line, position }
  let variant := server.settings.variant
  let targets := (server.index.search word.text).filter (Resolver.isCandidate variant query)
  have queried : server.queryAt? uri position = some query :=
    (queryAt?_eq_some_iff query).2 ⟨document, line, word, isOpen, enabled, isLine, isWord, rfl⟩
  have linked : Resolver.links? server.compiler variant query (server.index.search word.text) =
      some (targets.map (Resolver.link server.compiler variant query)) :=
    (Resolver.links?_eq_some_iff _ _).2
      ⟨Nat.le_trans (server.index.length_candidates_le variant query) few, rfl⟩
  have found := definition_of_queryAt? builtIn queried longEnough
  rw [linked] at found
  have answered := answerDefinition_response asked found server.support id
  refine ⟨_, targets, answered, ?_, ?_, ?_⟩
  · intro symbol held isMethod name_eq
    have onLine := Text.infix_of_wordAt? isWord
    exact Index.mem_candidates_of_name_eq held isMethod name_eq onLine variant
  -- The targets are what two filters leave of all symbols, which come in order.
  · obtain ⟨history, recorded⟩ := reachable.recorded
    have ordered := Index.pairwise_allSymbols history
    rw [← recorded.index_eq] at ordered
    exact ordered.sublist (List.filter_sublist.trans List.filter_sublist)
  · intro nonempty
    have kept : (some (targets.map (Resolver.link server.compiler variant query))).filter
        (fun links => !links.isEmpty) =
          some (targets.map (Resolver.link server.compiler variant query)) := by
      simp [Option.filter, nonempty]
    rw [kept]
    refine ⟨rfl, ?_⟩
    rw [placesJson?_definitionJson, List.map_map]
    rfl

/-- A word that ends in a sigma leads to the names that are spelled like it, in two documents
around the one that asks. -/
theorem answerDefinition_complete_with_final_sigma :
    let first : Symbol :=
      { name := "AΣ".toList, kind := .method, uri := ⟨"file:///a.rs".toList⟩
        range := ⟨⟨0, 3⟩, ⟨0, 5⟩⟩ }
    let last : Symbol :=
      { name := "AΣ".toList, kind := .method, uri := ⟨"file:///c.rs".toList⟩
        range := ⟨⟨0, 4⟩, ⟨0, 6⟩⟩ }
    ∃ (server : Server) (result : Json) (targets : List Symbol), Reachable server ∧
      (server.answerDefinition (.nat 1) (some (question "file:///b.rs" ⟨0, 1⟩))).response =
        some { id := .nat 1, outcome := .ok result } ∧
      result.isNull = false ∧ first ∈ targets ∧ last ∈ targets ∧
      targets.Pairwise Symbol.Precedes ∧
      placesJson? server.support result =
        some (targets.map fun symbol => (symbol.uri.toJson, symbol.range.toJson)) := by
  intro first last
  let asking : Uri := ⟨"file:///b.rs".toList⟩
  let word : Word := { text := "AΣ".toList, start := 0, stop := 2 }
  obtain ⟨server, conversation, evaluated⟩ : ∃ server,
      (connectedTo { enabledLanguages := some ["rust"] }).converse [(nowhere, greeting),
        (nowhere, opening "file:///c.rs" "sub AΣ"), (nowhere, opening "file:///b.rs" "AΣ()"),
        (nowhere, opening "file:///a.rs" "fn AΣ")] = some server ∧
      (server.searchesOwnIndex &&
        decide ((server.documents.get? asking).map (fun document =>
            (document.text, document.languageId)) = some ("AΣ()".toList, "rust") ∧
          server.settings.enabledLanguages = ["rust"] ∧ server.settings.variant = .strict ∧
          server.index.allSymbols = [first, last])) = true :=
    (Option.any_eq_true _ _).1 (by decide +kernel)
  obtain ⟨ownIndex, facts⟩ := Bool.and_eq_true_iff.1 evaluated
  obtain ⟨document_eq, languages_eq, variant_eq, symbols_eq⟩ := of_decide_eq_true facts
  obtain ⟨document, isOpen, fields_eq⟩ := Option.map_eq_some_iff.1 document_eq
  obtain ⟨text_eq, language_eq⟩ := Prod.mk.inj fields_eq
  have builtIn := source_eq_of_searchesOwnIndex ownIndex
  have reachable : Reachable server := .converse (.connected _ .standard) conversation
  have asked : readParams decodeDefinitionPlace (some (question "file:///b.rs" ⟨0, 1⟩)) =
      .ok (asking, ⟨0, 1⟩) :=
    eq_ok_of_toOption (by decide +kernel)
  have enabled : document.languageId ∈ server.settings.enabledLanguages := by
    rw [languages_eq, language_eq]
    decide
  have isLine : document.text.lineAt 0 = some "AΣ()".toList := by
    rw [text_eq]
    decide +kernel
  have isWord : Text.wordAt? "AΣ()".toList 1 = some word := by decide +kernel
  have longEnough : server.settings.variant.minimumLength ≤ word.text.utf16Length := by
    rw [variant_eq]
    decide +kernel
  obtain ⟨result, targets, answered, complete, ordered, places⟩ :=
    answerDefinition_complete reachable builtIn (.nat 1) asked isOpen enabled isLine isWord
      longEnough (by rw [symbols_eq, variant_eq]; decide +kernel)
  rw [symbols_eq] at complete
  have hasFirst : first ∈ targets := complete first (by simp) rfl rfl
  have hasLast : last ∈ targets := complete last (by simp) rfl rfl
  obtain ⟨notNull, placed⟩ := places (List.ne_nil_of_mem hasFirst)
  exact ⟨server, result, targets, reachable, answered, notNull, hasFirst, hasLast, ordered, placed⟩

end Server

end GotoDefinition
