import GotoDefinition.Proofs.Origin
import GotoDefinition.Proofs.Server.Definition

/-!
# Where links start

The names in the index are scanned from texts, and what can stand in a scanned name is a word
character to the editor too.  So the strict resolver, which looks for the name of a target at the
cursor, finds the word under the cursor or nothing.  It finds nothing under a name that is too long
to be compiled (`long_word_has_no_origin`).
-/

namespace GotoDefinition

/-! ## Scanned names -/

theorem isWordPart_of_isNamePart {c : Char} (isPart : isNamePart c = true) :
    isWordPart c = true := by
  rw [isNamePart, Bool.or_eq_true, beq_iff_eq] at isPart
  rcases isPart with continues | rfl
  · exact isWordPart_of_isWordCharacter continues
  · decide

theorem Text.isWordPart_of_mem_symbols {content : Text} {uri : Uri} {symbol : Symbol}
    (member : symbol ∈ content.symbols uri) : ∀ c ∈ symbol.name, isWordPart c = true :=
  fun c inName => isWordPart_of_isNamePart (isNamePart_of_mem_symbols member c inName)

/-! ## Links -/

/-- The link that a strict request on a word makes to a symbol: it starts at the word if the
symbol has it for its name and the name can be compiled. -/
def Resolver.strictLink (compiler : PatternCompiler) (word : Word) (position : Position)
    (symbol : Symbol) : Link where
  origin :=
    if compiler.accepts symbol.name = true ∧ symbol.name = word.text then
      some (word.toRange position.line)
    else none
  uri := symbol.uri
  target := symbol.range
  selection := symbol.range

namespace Server

variable {server : Server} {uri : Uri} {position : Position}

theorem Recorded.isWordPart_of_mem_allSymbols {history : List IndexEvent}
    (recorded : Recorded server history) {symbol : Symbol}
    (member : symbol ∈ server.index.allSymbols) : ∀ c ∈ symbol.name, isWordPart c = true := by
  rw [recorded.index_eq] at member
  obtain ⟨content, -, isSymbol⟩ := Index.exists_content_of_mem_allSymbols member
  exact Text.isWordPart_of_mem_symbols isSymbol

/-- Strict links lead from the word under the cursor to symbols of the index. -/
theorem Recorded.strict_definition {history : List IndexEvent} (recorded : Recorded server history)
    (builtIn : server.source = .workspace) (strict : server.settings.variant = .strict)
    {links : List Link} (found : server.definition uri position = .ok (some links)) :
    ∃ (document : OpenDocument) (line : Text) (word : Word) (symbols : List Symbol),
      server.documents.get? uri = some document ∧
      document.text.lineAt position.line = some line ∧
      line.wordAt? position.character = some word ∧
      (∀ symbol ∈ symbols, symbol ∈ server.index.allSymbols) ∧
      links = symbols.map (Resolver.strictLink server.compiler word position) := by
  obtain ⟨-, query, asked, -, linked⟩ := (definition_eq_ok_some_iff builtIn links).1 found
  obtain ⟨document, line, word, isOpen, -, isLine, isWord, rfl⟩ :=
    (queryAt?_eq_some_iff query).1 asked
  obtain ⟨-, rfl⟩ := (Resolver.links?_eq_some_iff _ links).1 linked
  rw [strict]
  refine ⟨document, line, word, _, isOpen, isLine, isWord, ?_, List.map_congr_left ?_⟩
  · intro symbol member
    exact Index.mem_allSymbols_of_mem_search (List.mem_filter.1 member).1
  · intro symbol member
    obtain ⟨searched, candidate⟩ := List.mem_filter.1 member
    obtain ⟨-, named, -⟩ := (Resolver.isCandidate_iff symbol).1 candidate
    have spelled := recorded.isWordPart_of_mem_allSymbols
      (Index.mem_allSymbols_of_mem_search searched)
    simp only [Resolver.link, Resolver.strictLink,
      Resolver.originRange?_of_wordAt? isWord named spelled]

/-- For a name that contains the word under the cursor and has only word characters, the origin
is the range of the word if the name is the word and can be compiled, and nothing otherwise; so it
is the word under every cursor on the name exactly if the name can be compiled.  Scanned names have
only word characters.  So in every conversation the links that a strict request is answered with,
from the built-in index, start at the word if they lead to a symbol with that name and it can be
compiled, and have no origin otherwise. -/
theorem strict_origin_is_word (compiler : PatternCompiler) :
    (∀ (line : Text) (position : Position) (word : Word) (name : Text),
      line.wordAt? position.character = some word → word.text <:+: name →
      (∀ c ∈ name, isWordPart c = true) →
        Resolver.originRange? compiler line position name =
          if compiler.accepts name = true ∧ name = word.text then
            some (word.toRange position.line)
          else none) ∧
    (∀ (name : Text), name ≠ [] → (∀ c ∈ name, isWordPart c = true) →
      ((∀ (line : Text) (position : Position) (word : Word),
        line.wordAt? position.character = some word → word.text <:+: name →
          Resolver.originRange? compiler line position name =
            if name = word.text then some (word.toRange position.line) else none) ↔
        compiler.accepts name = true)) ∧
    (∀ (content : Text) (uri : Uri), ∀ symbol ∈ content.symbols uri,
      ∀ c ∈ symbol.name, isWordPart c = true) ∧
    ∀ (server : Server), Reachable server → server.compiler = compiler →
      server.source = .workspace →
      server.settings.variant = .strict → server.support.linkSupport = true →
      ∀ (id : Json) (params : Option Json) (uri : Uri) (position : Position),
        readParams decodeDefinitionPlace params = .ok (uri, position) →
        ∀ result, (server.answerDefinition id params).response =
            some { id, outcome := .ok result } → result.isNull = false →
          ∃ (document : OpenDocument) (line : Text) (word : Word) (symbols : List Symbol),
            server.documents.get? uri = some document ∧
            document.text.lineAt position.line = some line ∧
            line.wordAt? position.character = some word ∧
            (∀ symbol ∈ symbols, symbol ∈ server.index.allSymbols) ∧
            result = .array (symbols.map fun symbol =>
              (Resolver.strictLink compiler word position symbol).toJson) := by
  refine ⟨fun _ _ _ _ => Resolver.originRange?_of_wordAt?,
    fun _ => Resolver.originRange?_of_wordAt?_iff_accepts,
    fun _ _ _ => Text.isWordPart_of_mem_symbols, ?_⟩
  rintro server reachable rfl builtIn strict linking id params uri position asked result answered
    notNull
  obtain ⟨history, recorded⟩ := reachable.recorded
  obtain ⟨links, found, rfl⟩ := definition_of_answered asked answered
  cases links with
  | none => cases notNull
  | some links =>
    obtain ⟨document, line, word, symbols, isOpen, isLine, isWord, held, rfl⟩ :=
      recorded.strict_definition builtIn strict found
    refine ⟨document, line, word, symbols, isOpen, isLine, isWord, held, ?_⟩
    simp only [definitionJson, linking, if_true, List.map_map]
    rfl

/-- A word that is too long to be compiled: it is the name that is looked for, and it is not
found. -/
theorem long_word_has_no_origin :
    let name : Text := List.replicate 400000 'a'
    ∃ word : Word, name.wordAt? 0 = some word ∧ word.text = name ∧
      (∀ c ∈ name, isWordPart c = true) ∧
      Resolver.originRange? .standard name ⟨0, 0⟩ name = none := by
  -- The name stands for itself throughout, so that no list of this length is ever built.
  intro name
  have length_eq : name.length = 400000 := List.length_replicate
  have spelled : ∀ c ∈ name, isWordPart c = true := by
    intro c member
    rw [List.eq_of_mem_replicate member]
    decide
  have nonempty : name ≠ [] := List.ne_nil_of_length_pos (by omega)
  have refused : PatternCompiler.standard.accepts name = false := by
    refine Bool.eq_false_iff.2 fun accepted => ?_
    have short := PatternCompiler.standard_accepts_iff.1 accepted
    have atLeast := name.length_le_utf8Length
    omega
  exact ⟨_, Text.wordAt?_of_spelled nonempty spelled, rfl, spelled,
    Resolver.originRange?_of_refused refused⟩

def linkingGreeting : Message where
  id := some (.nat 0)
  method := "initialize"
  params := some (.ofMembers [("capabilities", .ofMembers [("textDocument", .ofMembers [
    ("definition", .ofMembers [("linkSupport", .bool true)])])])])

/-- A word that is the name of one target and the beginning of the name of another. -/
theorem strict_origin_is_word_or_missing :
    let target : Uri := ⟨"file:///a.rs".toList⟩
    let links : List Link :=
      [{ origin := some ⟨⟨0, 0⟩, ⟨0, 3⟩⟩, uri := target
         target := ⟨⟨0, 3⟩, ⟨0, 6⟩⟩, selection := ⟨⟨0, 3⟩, ⟨0, 6⟩⟩ },
       { origin := none, uri := target
         target := ⟨⟨0, 10⟩, ⟨0, 16⟩⟩, selection := ⟨⟨0, 10⟩, ⟨0, 16⟩⟩ }]
    ∃ (server : Server) (word : Word) (symbols : List Symbol), Reachable server ∧
      (server.answerDefinition (.nat 1) (some (question "file:///b.rs" ⟨0, 1⟩))).response =
        some { id := .nat 1, outcome := .ok (definitionJson server.support (some links)) } ∧
      (∀ symbol ∈ symbols, symbol ∈ server.index.allSymbols) ∧
      definitionJson server.support (some links) =
        .array (symbols.map fun symbol =>
          (Resolver.strictLink server.compiler word ⟨0, 1⟩ symbol).toJson) := by
  intro target links
  let asking : Uri := ⟨"file:///b.rs".toList⟩
  obtain ⟨server, conversation, evaluated⟩ : ∃ server,
      (connectedTo { enabledLanguages := some ["rust"] }).converse [(nowhere, linkingGreeting),
        (nowhere, opening "file:///a.rs" "fn run fn runner"),
        (nowhere, opening "file:///b.rs" "run(runner)")] = some server ∧
      (server.searchesOwnIndex && server.support.linkSupport &&
        decide (server.settings.variant = .strict ∧
          server.definition asking ⟨0, 1⟩ = .ok (some links))) = true :=
    (Option.any_eq_true _ _).1 (by decide +kernel)
  obtain ⟨isServer, isFound⟩ := Bool.and_eq_true_iff.1 evaluated
  obtain ⟨ownIndex, linking⟩ := Bool.and_eq_true_iff.1 isServer
  obtain ⟨strict, found⟩ := of_decide_eq_true isFound
  have builtIn := source_eq_of_searchesOwnIndex ownIndex
  have asked : readParams decodeDefinitionPlace (some (question "file:///b.rs" ⟨0, 1⟩)) =
      .ok (asking, ⟨0, 1⟩) :=
    eq_ok_of_toOption (by decide +kernel)
  have reachable : Reachable server := .converse (.connected _ .standard) conversation
  have answered := answerDefinition_response asked found server.support (.nat 1)
  obtain ⟨-, -, -, links_eq⟩ := strict_origin_is_word server.compiler
  obtain ⟨-, -, word, symbols, -, -, -, held, result_eq⟩ :=
    links_eq server reachable rfl builtIn strict linking (.nat 1) _ asking ⟨0, 1⟩ asked _ answered
      rfl
  exact ⟨server, word, symbols, reachable, answered, held, result_eq⟩

end Server

end GotoDefinition
