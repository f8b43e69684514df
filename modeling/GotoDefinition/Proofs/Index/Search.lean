import GotoDefinition.Proofs.Grammar
import GotoDefinition.Proofs.Index.History
import GotoDefinition.Proofs.Resolver
import GotoDefinition.Proofs.Text.Lowercase
import Mathlib.Tactic.TFAE

/-!
# What a search finds

Symbols come in the order of their documents and of their places.  A search keeps those whose
lower-case names contain the lower-case query, while the resolver goes on to compare names as
they are written.  The two agree, whatever the index holds, for exactly those words whose
lower-case form does not depend on what surrounds them (`search_lossless_tfae`).
-/

namespace GotoDefinition

/-! ## Order -/

/-- A symbol comes before another one: in a document that comes before, or earlier in the same
document. -/
def Symbol.Precedes (symbol later : Symbol) : Prop :=
  symbol.uri.precedes later.uri = true ∨
    symbol.uri = later.uri ∧ symbol.range.stop.Precedes later.range.start

namespace Index

theorem exists_content_of_mem_allSymbols {history : List IndexEvent} {symbol : Symbol}
    (member : symbol ∈ (replay {} history).allSymbols) :
    ∃ content : Text,
      (replay {} history).symbols.get? symbol.uri = some (content.symbols symbol.uri) ∧
        symbol ∈ content.symbols symbol.uri := by
  obtain ⟨uri, symbols, entry, isSymbol⟩ := (mem_allSymbols_iff _ _).1 member
  obtain ⟨content, rfl⟩ := exists_content_of_replay entry
  obtain rfl := Text.uri_of_mem_symbols isSymbol
  exact ⟨content, entry, isSymbol⟩

theorem pairwise_allSymbols (history : List IndexEvent) :
    (replay {} history).allSymbols.Pairwise Symbol.Precedes := by
  have scanned : ∀ row ∈ (replay {} history).symbols.rows, ∃ content : Text,
      content.symbols row.1 = row.2 := fun row isRow =>
    exists_content_of_replay ((UriTable.get?_eq_some_iff _ _ _).2 isRow)
  rw [allSymbols, UriTable.values, List.pairwise_flatten, List.pairwise_map]
  -- Within one document places decide, across documents the order of the table does.
  constructor
  · intro symbols member
    obtain ⟨row, isRow, rfl⟩ := List.mem_map.1 member
    obtain ⟨content, scan_eq⟩ := scanned row isRow
    rw [← scan_eq]
    refine List.Pairwise.imp_of_mem ?_ (Text.pairwise_symbols content row.1)
    intro symbol later isSymbol isLater apart
    rw [Symbol.Precedes, Text.uri_of_mem_symbols isSymbol, Text.uri_of_mem_symbols isLater]
    exact .inr ⟨rfl, apart⟩
  · refine List.Pairwise.imp_of_mem ?_ (replay {} history).symbols.sorted
    intro row laterRow isRow isLaterRow sorted symbol isSymbol later isLater
    obtain ⟨content, scan_eq⟩ := scanned row isRow
    obtain ⟨laterContent, laterScan_eq⟩ := scanned laterRow isLaterRow
    rw [← scan_eq] at isSymbol
    rw [← laterScan_eq] at isLater
    rw [Symbol.Precedes, Text.uri_of_mem_symbols isSymbol, Text.uri_of_mem_symbols isLater]
    exact .inl sorted

/-! ## Membership -/

theorem search_nil (index : Index) : index.search [] = index.allSymbols := by
  simp [search, Text.toLower, Text.toLowerAfter]

theorem allSymbols_update_empty (uri : Uri) (content : Text) :
    (({} : Index).update uri content).allSymbols = content.symbols uri := by
  simp [allSymbols, update, UriTable.values, UriTable.insert, UriTable.insertRow]

theorem mem_search_iff (index : Index) (query : Text) (symbol : Symbol) :
    symbol ∈ index.search query ↔
      symbol ∈ index.allSymbols ∧ query.toLower <:+: symbol.name.toLower := by
  rw [search, List.mem_filter, Bool.or_eq_true, Text.includes_iff, List.isEmpty_iff]
  refine and_congr_right fun _ => or_iff_right_of_imp ?_
  intro nothing
  rw [nothing]
  exact List.nil_infix

/-! ## Lossless searches -/

open Resolver in
/-- If a search finds every symbol that has the word in its name, the resolver sees no
difference between the search and the whole index. -/
theorem links?_search {index : Index} {word : Text} {query : Query} (asked : query.word = word)
    (lossless : ∀ symbol ∈ index.allSymbols, word <:+: symbol.name → symbol ∈ index.search word)
    (compiler : PatternCompiler) (variant : Variant) :
    links? compiler variant query (index.search word) =
      links? compiler variant query index.allSymbols := by
  have sameCandidates : (index.search word).filter (isCandidate variant query) =
      index.allSymbols.filter (isCandidate variant query) := by
    rw [search, List.filter_filter]
    refine List.filter_congr ?_
    intro symbol member
    cases candidate : isCandidate variant query symbol with
    | false => rfl
    | true =>
      obtain ⟨-, named, -⟩ := (isCandidate_iff symbol).1 candidate
      rw [asked] at named
      -- A candidate has the word in its name, so the search has found it.
      exact (List.mem_filter.1 (lossless symbol member named)).2
  rw [links?, links?, candidates?, candidates?, sameCandidates]

/-! ## Hidden candidates -/

/-- The declaration of a function with the given name and nothing else. -/
def functionHead (name : Text) : DeclarationHead where
  keyword := .fnKeyword
  lead := "fn ".toList
  name := name

theorem written_functionHead {c : Char} {rest : Text} (isStart : isNameStart c = true)
    (parts : ∀ d ∈ rest, isNamePart d = true) : (functionHead (c :: rest)).Written [] where
  lead := ⟨[' '], [], rfl, by decide, List.forall_mem_singleton.2 rfl, .absent⟩
  name := ⟨⟨c, rest, rfl, isStart, parts⟩, by simp⟩

/-- A word with an unsettled sigma that can be part of a name has a name it is not found in. -/
theorem exists_hidden_name {word : Text} (spelled : ∀ c ∈ word, isNamePart c = true)
    (unsettled : ¬ word.SigmasSettled) :
    ∃ name, (functionHead name).Written [] ∧ word <:+: name ∧
      ¬ word.toLower <:+: Text.toLower name := by
  rcases Text.exists_toLower_not_infix unsettled with hidden | hidden
  · refine ⟨'_' :: (word ++ ['a']), written_functionHead rfl ?_, ⟨['_'], ['a'], by simp⟩, hidden⟩
    intro c member
    rcases List.mem_append.1 member with inWord | last
    · exact spelled c inWord
    · obtain rfl := List.mem_singleton.1 last
      decide
  · exact ⟨'a' :: word, written_functionHead rfl spelled, ⟨['a'], [], by simp⟩, hidden⟩

/-- Declared alone in a document, such a name makes an index with a method that the search for
the word leaves out. -/
theorem exists_hidden_candidate {word : Text} (spelled : ∀ c ∈ word, isNamePart c = true)
    (unsettled : ¬ word.SigmasSettled) (uri : Uri) :
    ∃ (content : Text) (symbol : Symbol),
      (({} : Index).update uri content).allSymbols = [symbol] ∧
      (({} : Index).update uri content).search word = [] ∧
      symbol.kind = SymbolKind.method ∧ word <:+: symbol.name := by
  obtain ⟨name, written, named, hidden⟩ := exists_hidden_name spelled unsettled
  have onlySymbol : (({} : Index).update uri ((functionHead name).lead ++ name)).allSymbols =
      [(functionHead name).symbolAfter uri []] := by
    rw [allSymbols_update_empty]
    exact Text.symbols_of_written written uri
  refine ⟨_, _, onlySymbol, ?_, rfl, named⟩
  refine List.eq_nil_iff_forall_not_mem.2 ?_
  intro found member
  obtain ⟨isSymbol, contained⟩ := (mem_search_iff _ _ _).1 member
  rw [onlySymbol, List.mem_singleton] at isSymbol
  subst isSymbol
  exact hidden contained

/-- When the search for a word loses nothing that the resolver would accept.  That every symbol
with the word in its name is found, in every index that any operations make, says the same as
that the resolver answers from the search as it would from all symbols, and both say that the
word is no part of a name or has only settled sigmas. -/
theorem search_lossless_tfae (word : Text) :
    List.TFAE [
      ∀ (disk : Disk) (operations : List IndexOperation),
        let index := (IndexState.run { disk } operations).index
        ∀ symbol ∈ index.search [], word <:+: symbol.name → symbol ∈ index.search word,
      ∀ (disk : Disk) (operations : List IndexOperation) (compiler : PatternCompiler)
        (variant : Variant) (query : Query),
        let index := (IndexState.run { disk } operations).index
        let search (asked : Text) : Except IndexError (List Symbol) := .ok (index.search asked)
        query.word = word → Resolver.accepts variant query.word = true →
          Resolver.resolve compiler variant query search =
            .ok (Resolver.links? compiler variant query (index.search [])),
      (∀ c ∈ word, isNamePart c = true) → word.SigmasSettled] := by
  tfae_have 3 → 1 := by
    intro settled disk operations index symbol member named
    rw [search_nil] at member
    refine (mem_search_iff _ _ _).2 ⟨member, ?_⟩
    have replayed : index = replay {} (IndexOperation.history disk operations) :=
      IndexState.index_run { disk } operations
    rw [replayed] at member
    obtain ⟨content, -, isSymbol⟩ := exists_content_of_mem_allSymbols member
    refine (settled ?_).toLower_occurs named
    intro c inWord
    exact Text.isNamePart_of_mem_symbols isSymbol c (named.subset inWord)
  tfae_have 1 → 2 := by
    intro lossless disk operations compiler variant query index search asked accepted
    have found := lossless disk operations
    simp only [search_nil] at found
    have sameLinks := links?_search asked found compiler variant
    rw [Resolver.resolve, if_pos accepted, search_nil, asked, ← sameLinks]
    rfl
  tfae_have 2 → 3 := by
    intro same spelled
    by_contra unsettled
    let uri : Uri := ⟨"file:///a".toList⟩
    let query : Query := { word, line := [], position := { line := 0, character := 0 } }
    obtain ⟨content, symbol, allSymbols_eq, search_eq, isMethod, named⟩ :=
      exists_hidden_candidate spelled unsettled uri
    have nonempty : word ≠ [] := by
      rintro rfl
      exact unsettled fun before after nil_eq => by simp at nil_eq
    have accepted : Resolver.accepts .lenient word = true :=
      decide_eq_true (Text.utf16Length_pos nonempty)
    have linked : Resolver.links? .standard .lenient query [symbol] =
        some [Resolver.link .standard .lenient query symbol] := by
      have candidate : Resolver.isCandidate .lenient query symbol = true :=
        (Resolver.isCandidate_iff symbol).2 ⟨isMethod, named, by simp⟩
      simp [Resolver.links?, Resolver.candidates?, Resolver.ambiguityThreshold, candidate]
    have resolved := same {} [.update uri content] .standard .lenient query rfl accepted
    change Resolver.resolve .standard .lenient query
        (fun asked => .ok ((({} : Index).update uri content).search asked)) =
      .ok (Resolver.links? .standard .lenient query
        ((({} : Index).update uri content).search [])) at resolved
    -- From all symbols there is a link, from the search there is none.
    rw [Resolver.resolve, if_pos accepted, search_nil, allSymbols_eq, search_eq, linked] at resolved
    cases resolved
  tfae_finish

/-- A final sigma in the word stands inside the name, so the search leaves the method out. -/
theorem search_hides_candidate :
    let uri : Uri := ⟨"file:///a.rs".toList⟩
    let index := (IndexState.run { disk := {} } [.update uri "fn AΣB() \x7b\x7d".toList]).index
    let search (asked : Text) : Except IndexError (List Symbol) := .ok (index.search asked)
    let query : Query :=
      { word := "AΣ".toList, line := "AΣ()".toList, position := { line := 0, character := 0 } }
    (∃ symbol ∈ index.search [], query.word <:+: symbol.name ∧ symbol ∉ index.search query.word) ∧
      Resolver.accepts .lenient query.word = true ∧
      Resolver.resolve .standard .lenient query search = .ok (some []) ∧
      Resolver.links? .standard .lenient query (index.search []) =
        some [{ origin := none, uri, target := ⟨⟨0, 3⟩, ⟨0, 6⟩⟩
                selection := ⟨⟨0, 3⟩, ⟨0, 6⟩⟩ }] := by
  intro uri index search query
  refine ⟨?_, ?_, ?_, ?_⟩
  · decide +kernel
  · decide +kernel
  · decide +kernel
  · decide +kernel

end Index

end GotoDefinition
