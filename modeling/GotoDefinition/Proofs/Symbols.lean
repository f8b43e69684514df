import GotoDefinition.Proofs.Declaration

/-!
# Symbols in their places

The symbols of a document carry line numbers and columns.  Read back through the lines of
the document and the columns on them, the range of a symbol is its name, and the ranges
follow the order of the declarations.
-/

namespace GotoDefinition

namespace Text

/-- Every symbol of a document is the symbol of a declaration in its place. -/
theorem stands_of_mem_symbols {content : Text} {uri : Uri} {symbol : Symbol}
    (member : symbol ∈ content.symbols uri) :
    ∃ declaration before head after, Declaration.Stands content declaration before head after ∧
      symbol = head.symbolAfter uri before := by
  obtain ⟨declaration, isDeclaration, isSymbol⟩ := List.mem_filterMap.1 member
  obtain ⟨before, head, after, stands⟩ := Declaration.stands_of_mem_declarations isDeclaration
  rw [stands.symbol?_eq uri, Option.some.injEq] at isSymbol
  exact ⟨declaration, before, head, after, stands, isSymbol.symm⟩

theorem exists_mem_symbols {content : Text} (declares : content.declarations ≠ []) (uri : Uri) :
    ∃ symbol, symbol ∈ content.symbols uri := by
  obtain ⟨declaration, isDeclaration⟩ := List.exists_mem_of_ne_nil _ declares
  obtain ⟨before, head, after, stands⟩ := Declaration.stands_of_mem_declarations isDeclaration
  exact ⟨_, List.mem_filterMap.2 ⟨declaration, isDeclaration, stands.symbol?_eq uri⟩⟩

theorem uri_of_mem_symbols {content : Text} {uri : Uri} {symbol : Symbol}
    (member : symbol ∈ content.symbols uri) : symbol.uri = uri := by
  obtain ⟨-, -, head, -, -, rfl⟩ := stands_of_mem_symbols member
  rfl

/-- The range of a symbol spells its name. -/
theorem spells_of_mem_symbols {content : Text} {uri : Uri} {symbol : Symbol}
    (member : symbol ∈ content.symbols uri) : content.Spells symbol.range symbol.name := by
  obtain ⟨declaration, before, head, after, stands, rfl⟩ := stands_of_mem_symbols member
  obtain ⟨-, nameNonempty, unbroken⟩ := stands.spec
  rw [stands.content_eq_name]
  exact spells_endPosition _ after unbroken nameNonempty

/-- A symbol's range is as wide as its name. -/
theorem width_of_mem_symbols {content : Text} {uri : Uri} {symbol : Symbol}
    (member : symbol ∈ content.symbols uri) :
    symbol.range.stop.character = symbol.range.start.character + symbol.name.utf16Length ∧
      0 < symbol.name.utf16Length := by
  obtain ⟨declaration, before, head, after, stands, rfl⟩ := stands_of_mem_symbols member
  obtain ⟨-, nameNonempty, unbroken⟩ := stands.spec
  refine ⟨?_, utf16Length_pos nameNonempty⟩
  simp only [DeclarationHead.symbolAfter, endPosition_append_of_onOneLine _ unbroken nameNonempty]

/-- The symbol of an earlier declaration ends before the symbol of a later one starts. -/
theorem symbolAfter_precedes {content before laterBefore after laterAfter : Text}
    {declaration later : Declaration} {head laterHead : DeclarationHead}
    (stands : Declaration.Stands content declaration before head after)
    (laterStands : Declaration.Stands content later laterBefore laterHead laterAfter)
    (apart : declaration.name.stop < later.name.start) :
    (before ++ head.lead ++ head.name).endPosition.Precedes
      (laterBefore ++ laterHead.lead).endPosition := by
  obtain ⟨-, nameNonempty, unbroken⟩ := stands.spec
  rw [stands.declaration_eq, laterStands.declaration_eq] at apart
  have endsHere : before ++ head.lead ++ head.name <+: content :=
    ⟨after, by rw [stands.content_eq_name, List.append_assoc]⟩
  have startsThere : laterBefore ++ laterHead.lead <+: content :=
    ⟨laterHead.name ++ laterAfter, laterStands.content_eq_name.symm⟩
  obtain ⟨middle, middleNonempty, between⟩ :=
    exists_append_of_utf8Length_lt endsHere startsThere apart
  rw [between]
  -- A name ends in no carriage return, so nothing is split behind it.
  exact endPosition_precedes_append middleNonempty
    (not_splitsBreak_of_onOneLine _ middle unbroken nameNonempty).2

theorem pairwise_symbols (content : Text) (uri : Uri) :
    (content.symbols uri).Pairwise fun symbol later =>
      symbol.range.stop.Precedes later.range.start := by
  refine List.pairwise_filterMap.2 ?_
  refine List.Pairwise.imp_of_mem ?_ (Declaration.pairwise_scanFrom none 0 content)
  intro declaration later member laterMember apart symbol isSymbol laterSymbol isLaterSymbol
  obtain ⟨before, head, after, stands⟩ := Declaration.stands_of_mem_declarations member
  obtain ⟨laterBefore, laterHead, laterAfter, laterStands⟩ :=
    Declaration.stands_of_mem_declarations laterMember
  rw [stands.symbol?_eq uri, Option.some.injEq] at isSymbol
  rw [laterStands.symbol?_eq uri, Option.some.injEq] at isLaterSymbol
  subst isSymbol isLaterSymbol
  exact symbolAfter_precedes stands laterStands apart

/-- The ranges of symbols read back: the line of a range is a line of the document, the
columns of the range cut the name out of it, and the ranges follow one another without
overlap. -/
theorem symbol_ranges_read_back (content : Text) (uri : Uri) :
    (∀ symbol ∈ content.symbols uri,
      symbol.range.start.line = symbol.range.stop.line ∧
      (∃ line, content.lineAt symbol.range.start.line = some line ∧
        line.slice? (line.byteOfColumn symbol.range.start.character)
          (line.byteOfColumn symbol.range.stop.character) = some symbol.name) ∧
      symbol.range.stop.character - symbol.range.start.character = symbol.name.utf16Length ∧
      symbol.range.start.Precedes symbol.range.stop) ∧
    (content.symbols uri).Pairwise fun symbol later =>
      symbol.range.stop.Precedes later.range.start := by
  refine ⟨?_, pairwise_symbols content uri⟩
  intro symbol member
  have spells := spells_of_mem_symbols member
  obtain ⟨width, positive⟩ := width_of_mem_symbols member
  refine ⟨spells.oneLine, spells.onLine, by omega, .inr ⟨spells.oneLine, by omega⟩⟩

/-- A range behind all three kinds of line breaks and behind characters of one, two and four
bytes. -/
theorem symbol_ranges_read_back_behind_breaks :
    let content : Text := "é𝔸\r\rclass A\r\n/* 𝔸 */ fn go()\n".toList
    let uri : Uri := ⟨"file:///a".toList⟩
    let symbol : Symbol :=
      { name := ['g', 'o'], kind := .method, uri
        range := { start := { line := 3, character := 12 }, stop := { line := 3, character := 14 } } }
    symbol ∈ content.symbols uri ∧
      ∃ line, content.lineAt 3 = some line ∧
        line.slice? (line.byteOfColumn 12) (line.byteOfColumn 14) = some ['g', 'o'] := by
  intro content uri symbol
  have member : symbol ∈ content.symbols uri := by decide +kernel
  exact ⟨member, ((symbol_ranges_read_back content uri).1 symbol member).2.1⟩

end Text

end GotoDefinition
