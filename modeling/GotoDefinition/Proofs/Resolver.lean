import GotoDefinition.Index.Basic
import GotoDefinition.Proofs.Text.Units
import GotoDefinition.Resolver

/-!
# From searched symbols to links

A search returns symbols that the index holds, and the resolver turns the methods among
them that fit the query into links.  Each function is described once, so that nothing
about requests has to open it again.
-/

namespace GotoDefinition

/-! ## Searching -/

namespace Index

theorem mem_allSymbols_iff (index : Index) (symbol : Symbol) :
    symbol ∈ index.allSymbols ↔
      ∃ uri symbols, index.symbols.get? uri = some symbols ∧ symbol ∈ symbols := by
  rw [allSymbols, List.mem_flatten]
  constructor
  · rintro ⟨symbols, isValue, member⟩
    obtain ⟨uri, entry⟩ := (UriTable.mem_values_iff _ _).1 isValue
    exact ⟨uri, symbols, entry, member⟩
  · rintro ⟨uri, symbols, entry, member⟩
    exact ⟨symbols, (UriTable.mem_values_iff _ _).2 ⟨uri, entry⟩, member⟩

theorem mem_allSymbols_of_mem_search {index : Index} {query : Text} {symbol : Symbol}
    (member : symbol ∈ index.search query) : symbol ∈ index.allSymbols :=
  (List.mem_filter.1 member).1

end Index

/-! ## Resolving -/

namespace Resolver

variable {compiler : PatternCompiler} {variant : Variant} {query : Query}

theorem isCandidate_iff (symbol : Symbol) :
    isCandidate variant query symbol = true ↔
      symbol.kind = SymbolKind.method ∧ query.word <:+: symbol.name ∧
        (variant = .strict → symbol.name <:+: query.line) := by
  cases variant with
  | strict => simp [isCandidate, Symbol.isMethod, Text.includes_iff, and_assoc]
  | lenient => simp [isCandidate, Symbol.isMethod, Text.includes_iff]

theorem candidates?_eq_some_iff (symbols found : List Symbol) :
    candidates? variant query symbols = some found ↔
      (symbols.filter (isCandidate variant query)).length ≤ ambiguityThreshold ∧
        symbols.filter (isCandidate variant query) = found := by
  rw [candidates?]
  split
  next tooMany => simp [Nat.not_le.2 tooMany]
  next few => simp [Nat.not_lt.1 few]

theorem candidates?_eq_none_iff (symbols : List Symbol) :
    candidates? variant query symbols = none ↔
      ambiguityThreshold < (symbols.filter (isCandidate variant query)).length := by
  simp [candidates?]

/-- There are links if there are not too many candidates, and then one for each of them. -/
theorem links?_eq_some_iff (symbols : List Symbol) (links : List Link) :
    links? compiler variant query symbols = some links ↔
      (symbols.filter (isCandidate variant query)).length ≤ ambiguityThreshold ∧
        (symbols.filter (isCandidate variant query)).map (link compiler variant query) =
          links := by
  rw [links?, Option.map_eq_some_iff]
  constructor
  · rintro ⟨found, chosen, rfl⟩
    obtain ⟨few, rfl⟩ := (candidates?_eq_some_iff symbols found).1 chosen
    exact ⟨few, rfl⟩
  · rintro ⟨few, rfl⟩
    exact ⟨_, (candidates?_eq_some_iff symbols _).2 ⟨few, rfl⟩, rfl⟩

theorem resolve_eq_ok_some_iff {ε : Type} (search : Text → Except ε (List Symbol))
    (links : List Link) :
    resolve compiler variant query search = .ok (some links) ↔
      variant.minimumLength ≤ query.word.utf16Length ∧ ∃ symbols,
        search query.word = .ok symbols ∧ links? compiler variant query symbols = some links := by
  rw [resolve, accepts]
  by_cases longEnough : variant.minimumLength ≤ query.word.utf16Length
  · cases searched : search query.word with
    | error reason => simp [longEnough, Except.map]
    | ok symbols => simp [longEnough, Except.map]
  · simp [longEnough]

end Resolver

end GotoDefinition
