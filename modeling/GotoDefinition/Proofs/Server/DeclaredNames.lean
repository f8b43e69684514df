import GotoDefinition.Proofs.Server.Origin
import GotoDefinition.Proofs.Text.Columns

/-!
# Declared names under the cursor

The scanner and the editor divide a text into words in two ways: a declared name is made of
identifier characters and dollar signs, and a default word of everything but blanks and
separators.  At a declaration the two agree.  What stands ahead of a declared name, a gap or the
parenthesis that closes a receiver, ends a default word, and so a default word begins where the
name does.
-/

namespace GotoDefinition

/-! ## Ahead of a name -/

theorem isWordPart_of_isGap {c : Char} (blank : isGap c = true) : isWordPart c = false := by
  have isSpaceOrTab : c = ' ' ∨ c = '\t' := by simpa [isGap] using blank
  rcases isSpaceOrTab with rfl | rfl <;> decide

theorem isWordPart_of_getLast?_gap {gap : Text} (blank : ∀ c ∈ gap, isGap c = true) {c : Char}
    (last : c ∈ gap.getLast?) : isWordPart c = false :=
  isWordPart_of_isGap (blank c (List.mem_of_getLast? last))

/-- Behind a keyword no word goes on into the name. -/
theorem DeclarationHead.Written.isWordPart_of_getLast?_lead {head : DeclarationHead} {after : Text}
    (written : head.Written after) {c : Char} (last : c ∈ head.lead.getLast?) :
    isWordPart c = false := by
  obtain ⟨gap, receiver, lead_eq, hasGap, blank, isReceiver⟩ := written.lead
  have hasGapLast := List.getLast?_eq_some_getLast hasGap
  rw [lead_eq, List.getLast?_append, List.getLast?_append, hasGapLast] at last
  cases isReceiver with
  | absent => exact isWordPart_of_getLast?_gap blank (by rw [hasGapLast]; simpa using last)
  | @present inside gapBehind closedOnce blankBehind =>
    -- The receiver ends in its parenthesis, or in the gap behind it.
    rw [← List.cons_append, List.getLast?_append, List.getLast?_cons] at last
    cases gapLast : gapBehind.getLast? with
    | none =>
      obtain rfl : ')' = c := by simpa [gapLast] using last
      decide
    | some d =>
      obtain rfl : d = c := by simpa [gapLast] using last
      exact isWordPart_of_getLast?_gap blankBehind gapLast

/-! ## Names on their lines -/

namespace Text

/-- A default word is found from everywhere in it and from its two ends. -/
theorem wordAt?_of_run {left run right : Text} (isRun : Run isWordPart left run right)
    {column : Nat} (reached : left.utf16Length ≤ column)
    (notPassed : column ≤ (left ++ run).utf16Length) :
    wordAt? (left ++ (run ++ right)) column =
      some { text := run, start := left.utf16Length, stop := (left ++ run).utf16Length } := by
  obtain ⟨line, line_eq⟩ : ∃ line, line = left ++ (run ++ right) := ⟨_, rfl⟩
  have startPrefix : left <+: line := ⟨_, line_eq.symm⟩
  have stopPrefix : left ++ run <+: line := ⟨right, by rw [line_eq, List.append_assoc]⟩
  have started := byteOfColumn_mono line reached
  have stopped := byteOfColumn_mono line notPassed
  rw [byteOfColumn_of_isPrefix startPrefix] at started
  rw [byteOfColumn_of_isPrefix stopPrefix] at stopped
  rw [← line_eq]
  exact (wordAt?_eq_some_iff _).2 ⟨left, right, ⟨line_eq, started, stopped⟩, isRun, rfl, rfl⟩

/-- The line of a symbol, divided at the name.  What stands ahead of the name there ends a default
word. -/
theorem exists_line_of_mem_symbols {content : Text} {uri : Uri} {symbol : Symbol}
    (member : symbol ∈ content.symbols uri) :
    ∃ left right, content.lineAt symbol.range.start.line = some (left ++ (symbol.name ++ right)) ∧
      symbol.range.start.character = left.utf16Length ∧
      symbol.range.stop.character = (left ++ symbol.name).utf16Length ∧
      symbol.name ≠ [] ∧ ∀ c ∈ left.getLast?, isWordPart c = false := by
  obtain ⟨declaration, before, head, after, stands, rfl⟩ := stands_of_mem_symbols member
  obtain ⟨leadNonempty, nameNonempty, unbroken⟩ := stands.spec
  have written := (Declaration.stands_iff_written.1 stands).written
  have line_eq := lineAt_of_onOneLine (before ++ head.lead) after unbroken nameNonempty
  rw [← stands.content_eq_name] at line_eq
  refine ⟨_, _, line_eq, rfl, ?_, nameNonempty, ?_⟩
  · simp only [DeclarationHead.symbolAfter, endPosition,
      lastLine_append_of_onOneLine _ unbroken]
  · intro c last
    -- The last character of the line so far is the last one of the whole text so far.
    obtain ⟨front, split⟩ := lastLine_suffix (before ++ head.lead)
    refine written.isWordPart_of_getLast?_lead ?_
    have lastOfAll : c ∈ (before ++ head.lead).getLast? := by
      rw [← split, List.getLast?_append, last]
      rfl
    rwa [List.getLast?_append, List.getLast?_eq_some_getLast leadNonempty, Option.some_or,
      ← List.getLast?_eq_some_getLast leadNonempty] at lastOfAll

end Text

/-! ## Requests on a declared name -/

/-- The default word at the start of a declared name starts there and has the name in front.  If
no word character stands behind the name, the name is the default word from everywhere in it and
from its ends, and a definition request there asks for the name. -/
theorem Text.declared_name_is_word (content : Text) (uri : Uri) :
    ∀ symbol ∈ content.symbols uri, ∃ line behind,
      content.lineAt symbol.range.start.line = some line ∧
      line.dropBytes? (line.byteOfColumn symbol.range.stop.character) = some behind ∧
      (∃ word, line.wordAt? symbol.range.start.character = some word ∧
        word.start = symbol.range.start.character ∧ symbol.name <+: word.text) ∧
      ((∀ c ∈ behind.head?, isWordPart c = false) →
        ∀ column, symbol.range.start.character ≤ column →
          column ≤ symbol.range.stop.character →
            line.wordAt? column =
              some { text := symbol.name, start := symbol.range.start.character
                     stop := symbol.range.stop.character } ∧
            ∀ (server : Server) (asked : Uri) (document : OpenDocument),
              server.documents.get? asked = some document → document.text = content →
              document.languageId ∈ server.settings.enabledLanguages →
                server.queryAt? asked ⟨symbol.range.start.line, column⟩ =
                  some { word := symbol.name, line
                         position := ⟨symbol.range.start.line, column⟩ }) := by
  intro symbol member
  obtain ⟨left, right, isLine, start_eq, stop_eq, nonempty, apart⟩ :=
    exists_line_of_mem_symbols member
  have spelled := isWordPart_of_mem_symbols member
  refine ⟨_, right, isLine, ?_, ?_, ?_⟩
  · have upToName : left ++ symbol.name <+: left ++ (symbol.name ++ right) :=
      ⟨right, List.append_assoc left symbol.name right⟩
    have dropped := dropBytes?_append (left ++ symbol.name) right 0
    rw [List.append_assoc, Nat.add_zero, dropBytes?_zero] at dropped
    rw [stop_eq, byteOfColumn_of_isPrefix upToName, dropped]
  · -- The word goes on behind the name as long as word characters follow.
    have isRun : Run isWordPart left (symbol.name ++ right.takeWhile isWordPart)
        (right.dropWhile isWordPart) :=
      { nonempty := by simp [nonempty]
        inside := List.forall_mem_append.2 ⟨spelled, List.all_eq_true.1 List.all_takeWhile⟩
        leftEnd := apart
        rightEnd := fun c first => head?_dropWhile_of_mem first }
    have found := wordAt?_of_run isRun (Nat.le_refl _) (by simp)
    rw [List.append_assoc symbol.name, List.takeWhile_append_dropWhile, ← start_eq] at found
    exact ⟨_, found, rfl, List.prefix_append _ _⟩
  · intro ended column reached notPassed
    have isRun : Run isWordPart left symbol.name right := ⟨nonempty, spelled, apart, ended⟩
    have found := wordAt?_of_run isRun (start_eq ▸ reached) (stop_eq ▸ notPassed)
    rw [← start_eq, ← stop_eq] at found
    refine ⟨found, ?_⟩
    intro server asked document isOpen text_eq enabled
    exact (Server.queryAt?_eq_some_iff _).2
      ⟨document, _, _, isOpen, enabled, text_eq ▸ isLine, found, rfl⟩

/-- A name right behind a receiver, asked for from inside its last character, and a name that the
editor's word goes on behind. -/
theorem Text.declared_name_is_word_behind_receiver :
    let line : Text := "func (s)b𝔸(x)".toList
    let secondLine : Text := "fn go→on".toList
    let content : Text := line ++ '\r' :: secondLine
    let uri : Uri := ⟨"file:///a.go".toList⟩
    let document : OpenDocument := { text := content, languageId := "go", version := 1 }
    let server : Server :=
      { documents := ({} : UriTable OpenDocument).insert uri document
        settings := { enabledLanguages := ["go"] } }
    let symbols : List Symbol :=
      [{ name := "b𝔸".toList, kind := .method, uri, range := ⟨⟨0, 8⟩, ⟨0, 11⟩⟩ },
       { name := "go".toList, kind := .method, uri, range := ⟨⟨1, 3⟩, ⟨1, 5⟩⟩ }]
    (∀ symbol ∈ symbols, symbol ∈ content.symbols uri) ∧ line.InsidePair 10 ∧
      server.queryAt? uri ⟨0, 10⟩ = some { word := "b𝔸".toList, line, position := ⟨0, 10⟩ } ∧
      ∃ word, secondLine.wordAt? 3 = some word ∧ word.start = 3 ∧
        "go".toList <+: word.text := by
  intro line secondLine content uri document server symbols
  have members : ∀ symbol ∈ symbols, symbol ∈ content.symbols uri := by decide +kernel
  refine ⟨members, ⟨"func (s)b".toList, '𝔸', "(x)".toList, by decide +kernel, by decide,
    by decide +kernel⟩, ?_, ?_⟩
  · obtain ⟨onLine, behind, isLine, dropped, -, asks⟩ :=
      declared_name_is_word content uri _ (members _ List.mem_cons_self)
    have line_eq : content.lineAt 0 = some line := by decide +kernel
    obtain rfl : line = onLine := Option.some.inj (line_eq.symm.trans isLine)
    have behind_eq : line.dropBytes? (line.byteOfColumn 11) = some "(x)".toList := by
      decide +kernel
    obtain rfl : "(x)".toList = behind := Option.some.inj (behind_eq.symm.trans dropped)
    have ended : ∀ c ∈ "(x)".toList.head?, isWordPart c = false := by
      intro c first
      obtain rfl : '(' = c := Option.some.inj first
      decide
    exact (asks ended 10 (by decide) (by decide)).2 server uri document
      (by decide +kernel) rfl (by decide)
  · obtain ⟨onLine, -, isLine, -, starts, -⟩ := declared_name_is_word content uri _
      (members _ (List.mem_cons_of_mem _ List.mem_cons_self))
    have line_eq : content.lineAt 1 = some secondLine := by decide +kernel
    obtain rfl : secondLine = onLine := Option.some.inj (line_eq.symm.trans isLine)
    exact starts

end GotoDefinition
