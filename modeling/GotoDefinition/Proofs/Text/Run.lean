import GotoDefinition.Proofs.Text.Word
import GotoDefinition.Text.WordCharacter

/-!
# Runs of word characters

A run is a block of characters of one class that cannot be made longer on either side.  A cursor
touches at most one run, because everything of the class that the cursor touches lies in it
(`CursorAt.within_run`).  The default word under a cursor is the run that the cursor touches.
-/

namespace GotoDefinition

/-! ## Character classes -/

namespace CodePoints

/-- No range of one table meets a range of the other. -/
def apart (table other : CodePoints) : Bool :=
  table.all fun range => other.all fun otherRange =>
    range.2 < otherRange.1 || otherRange.2 < range.1

theorem exists_range_of_mem {table : CodePoints} {code : Nat} (member : table.mem code = true) :
    ∃ range ∈ table, range.1 ≤ code ∧ code ≤ range.2 := by
  fun_induction mem table code with
  | case1 => cases member
  | case2 => cases member
  | case3 low high rest code notBelow inside =>
    exact ⟨(low, high), List.mem_cons_self, Nat.not_lt.1 notBelow, inside⟩
  | case4 low high rest code notBelow above ih =>
    obtain ⟨range, isRange, bounds⟩ := ih member
    exact ⟨range, List.mem_cons_of_mem _ isRange, bounds⟩

theorem mem_eq_false_of_apart {table other : CodePoints} (tablesApart : table.apart other = true)
    {code : Nat} (member : table.mem code = true) : other.mem code = false := by
  rw [Bool.eq_false_iff]
  intro alsoMember
  obtain ⟨range, isRange, bounds⟩ := exists_range_of_mem member
  obtain ⟨otherRange, isOtherRange, otherBounds⟩ := exists_range_of_mem alsoMember
  have disjoint := List.all_eq_true.1 (List.all_eq_true.1 tablesApart range isRange) otherRange
    isOtherRange
  rw [Bool.or_eq_true, decide_eq_true_eq, decide_eq_true_eq] at disjoint
  omega

end CodePoints

theorem isWordPart_eq_false_iff (c : Char) :
    isWordPart c = false ↔ isBlank c = true ∨ c ∈ wordSeparators := by
  simp only [isWordPart, Bool.and_eq_false_iff, Bool.not_eq_false', List.contains_iff_mem]

/-- No blank and no separator continues an identifier. -/
theorem isWordPart_of_isWordCharacter {c : Char} (continues : isWordCharacter c = true) :
    isWordPart c = true := by
  rw [← Bool.not_eq_false, isWordPart_eq_false_iff]
  rintro (blank | isSeparator)
  · have tablesApart : blankCodePoints.apart wordCodePoints = true := by decide +kernel
    exact Bool.eq_false_iff.1 (CodePoints.mem_eq_false_of_apart tablesApart blank) continues
  · have noneContinues : (wordSeparators.all fun c => !isWordCharacter c) = true := by
      decide +kernel
    have excluded := List.all_eq_true.1 noneContinues c isSeparator
    rw [continues] at excluded
    cases excluded

/-- Blanks and separators all have one UTF-16 unit. -/
theorem isWordPart_of_utf16Size {c : Char} (isPair : utf16Size c = 2) : isWordPart c = true := by
  rw [← Bool.not_eq_false, isWordPart_eq_false_iff]
  rintro (blank | isSeparator)
  · obtain ⟨range, isRange, bounds⟩ := CodePoints.exists_range_of_mem blank
    have basic : ∀ range ∈ blankCodePoints, range.2 < 0x10000 := by decide
    have notBasic := basic range isRange
    rw [utf16Size, if_pos (by omega)] at isPair
    cases isPair
  · have single : (wordSeparators.all fun c => utf16Size c == 1) = true := by decide +kernel
    have size := List.all_eq_true.1 single c isSeparator
    rw [isPair] at size
    cases size

/-! ## Runs -/

/-- A block of members of a class between `before` and `after` that is as long as it can be. -/
structure Run (member : Char → Bool) (before run after : Text) : Prop where
  nonempty : run ≠ []
  inside : ∀ c ∈ run, member c = true
  leftEnd : ∀ c ∈ before.getLast?, member c = false
  rightEnd : ∀ c ∈ after.head?, member c = false

namespace Text.CursorAt

variable {member : Char → Bool} {line before piece after left run right : Text} {cursor : Nat}

theorem prefix_start (cursorAt : line.CursorAt cursor before piece after) : before <+: line :=
  ⟨piece ++ after, cursorAt.line_eq.symm⟩

theorem prefix_stop (cursorAt : line.CursorAt cursor before piece after) :
    before ++ piece <+: line :=
  ⟨after, by rw [cursorAt.line_eq, List.append_assoc]⟩

/-- Members of the class that the cursor touches lie in the run that it touches. -/
theorem within_run (cursorAt : line.CursorAt cursor left run right)
    (isRun : Run member left run right) (pieceAt : line.CursorAt cursor before piece after)
    (inside : ∀ c ∈ piece, member c = true) :
    ∃ lead rest, before = left ++ lead ∧ run = lead ++ (piece ++ rest) := by
  -- If the piece started before the run, the character ahead of the run would be in the piece.
  have startsInside : left.utf8Length ≤ before.utf8Length := by
    refine Nat.not_lt.1 fun startsAhead => ?_
    obtain ⟨middle, nonempty, rfl⟩ := exists_append_of_utf8Length_lt pieceAt.prefix_start
      cursorAt.prefix_start startsAhead
    have ahead : before ++ middle <+: before ++ piece :=
      prefix_of_utf8Length_le cursorAt.prefix_start pieceAt.prefix_stop
        (Nat.le_trans cursorAt.reached pieceAt.notPassed)
    have inPiece := (List.prefix_append_right_inj before).1 ahead
    obtain ⟨d, last⟩ := Option.isSome_iff_exists.1 (List.getLast?_isSome.2 nonempty)
    have outside := isRun.leftEnd d (by rw [List.getLast?_append, last]; rfl)
    have isMember := inside d (inPiece.subset (List.mem_of_getLast? last))
    exact Bool.eq_false_iff.1 outside isMember
  obtain ⟨lead, rfl⟩ := prefix_of_utf8Length_le cursorAt.prefix_start pieceAt.prefix_start
    startsInside
  -- If it went on behind the run, the character behind the run would be in the piece.
  have stopsInside : (left ++ lead ++ piece).utf8Length ≤ (left ++ run).utf8Length := by
    refine Nat.not_lt.1 fun goesOn => ?_
    obtain ⟨middle, nonempty, beyond⟩ := exists_append_of_utf8Length_lt cursorAt.prefix_stop
      pieceAt.prefix_stop goesOn
    have leadPrefix := prefix_of_utf8Length_le pieceAt.prefix_start cursorAt.prefix_stop
      (Nat.le_trans pieceAt.reached cursorAt.notPassed)
    obtain ⟨rest, rfl⟩ := (List.prefix_append_right_inj left).1 leadPrefix
    have piece_eq : piece = rest ++ middle := by simpa using beyond
    have right_eq : right = middle ++ after := by
      simpa [piece_eq] using cursorAt.line_eq.symm.trans pieceAt.line_eq
    obtain ⟨d, tail, rfl⟩ := List.exists_cons_of_ne_nil nonempty
    have outside := isRun.rightEnd d (by rw [right_eq]; rfl)
    have isMember := inside d (by simp [piece_eq])
    exact Bool.eq_false_iff.1 outside isMember
  have stopPrefix := prefix_of_utf8Length_le pieceAt.prefix_stop cursorAt.prefix_stop stopsInside
  rw [List.append_assoc, List.prefix_append_right_inj] at stopPrefix
  obtain ⟨rest, run_eq⟩ := stopPrefix
  exact ⟨lead, rest, rfl, by rw [← run_eq, List.append_assoc]⟩

/-- A cursor touches one run at most. -/
theorem run_unique (cursorAt : line.CursorAt cursor left run right)
    (isRun : Run member left run right) (otherAt : line.CursorAt cursor before piece after)
    (otherRun : Run member before piece after) :
    before = left ∧ piece = run ∧ after = right := by
  -- Each of the two lies in the other.
  obtain ⟨lead, rest, before_eq, run_eq⟩ := cursorAt.within_run isRun otherAt otherRun.inside
  obtain ⟨otherLead, otherRest, left_eq, piece_eq⟩ :=
    otherAt.within_run otherRun cursorAt isRun.inside
  have lengths := congrArg List.length before_eq
  have otherLengths := congrArg List.length left_eq
  have runLengths := congrArg List.length run_eq
  have pieceLengths := congrArg List.length piece_eq
  simp only [List.length_append] at lengths otherLengths runLengths pieceLengths
  obtain rfl : lead = [] := List.length_eq_zero_iff.1 (by omega)
  obtain rfl : rest = [] := List.length_eq_zero_iff.1 (by omega)
  obtain rfl : before = left := by simpa using before_eq
  obtain rfl : run = piece := by simpa using run_eq
  refine ⟨rfl, rfl, ?_⟩
  simpa using otherAt.line_eq.symm.trans cursorAt.line_eq

end Text.CursorAt

namespace Pattern

variable {member : Char → Bool} (touching : Bool)

/-- Every match is a run.  Where the search stands it does not stand inside of one: what it has
read does not end in a member that goes on behind. -/
theorem run_of_mem_runMatches {before text : Text}
    (outside : ∀ c ∈ before.getLast?, member c = true → ∀ d ∈ text.head?, member d = false)
    {span : Span} (found : span ∈ runMatches member .oneOrMore touching before.utf8Length text) :
    ∃ left run right, span.Cuts (before ++ text) left run right ∧ Run member left run right := by
  induction text using runByRun member generalizing before touching with
  | nil =>
    rw [runMatches_nil] at found
    exact absurd found List.not_mem_nil
  | run run rest nonempty inside rightEnd ih =>
    rw [runMatches_run _ _ nonempty inside rightEnd, ← Text.utf8Length_append] at found
    rcases List.mem_cons.1 found with rfl | later
    · refine ⟨before, run, rest, ⟨rfl, rfl, rfl⟩, nonempty, inside, ?_, rightEnd⟩
      intro c last
      rw [Bool.eq_false_iff]
      intro isMember
      obtain ⟨d, tail, rfl⟩ := List.exists_cons_of_ne_nil nonempty
      exact Bool.eq_false_iff.1 (outside c last isMember d rfl) (inside d List.mem_cons_self)
    · have behind : ∀ c ∈ (before ++ run).getLast?, member c = true →
          ∀ d ∈ rest.head?, member d = false := fun _ _ _ => rightEnd
      simpa using ih true behind later
  | skip c rest notMember ih =>
    rw [runMatches_skip _ _ notMember] at found
    have behind : ∀ d ∈ (before ++ [c]).getLast?, member d = true →
        ∀ e ∈ rest.head?, member e = false := by
      intro d last isMember
      obtain rfl : c = d := by simpa using last
      exact absurd isMember (Bool.eq_false_iff.1 notMember)
    simpa using ih false behind (by simpa [emptyMatch?] using found)

/-- Every member of the class lies in a match. -/
theorem exists_mem_runMatches (before : Text) {text skipped after : Text} {c : Char}
    (text_eq : text = skipped ++ c :: after) (isMember : member c = true) :
    ∃ span ∈ runMatches member .oneOrMore touching before.utf8Length text,
      span.start ≤ (before ++ skipped).utf8Length ∧
        (before ++ (skipped ++ [c])).utf8Length ≤ span.stop := by
  induction text using runByRun member generalizing before skipped touching with
  | nil => simp at text_eq
  | run run rest nonempty inside rightEnd ih =>
    rw [runMatches_run _ _ nonempty inside rightEnd, ← Text.utf8Length_append]
    rcases List.append_eq_append_iff.1 text_eq with ⟨more, rfl, rest_eq⟩ | ⟨more, rfl, rest_eq⟩
    · obtain ⟨span, found, bounds⟩ := ih true (before ++ run) rest_eq
      exact ⟨span, List.mem_cons_of_mem _ found, by simpa using bounds⟩
    · -- The run goes on at least to the end of the character, which is a member like the others.
      cases more with
      | nil =>
        have outside := rightEnd c (by rw [← List.nil_append rest, ← rest_eq]; rfl)
        exact absurd isMember (Bool.eq_false_iff.1 outside)
      | cons d more =>
        obtain rfl : c = d := by simpa using congrArg List.head? rest_eq
        refine ⟨_, List.mem_cons_self, ?_, ?_⟩
        · simp
        · simp only [Text.utf8Length_append, Text.utf8Length_cons, Text.utf8Length_nil]
          omega
  | skip d rest notMember ih =>
    rw [runMatches_skip _ _ notMember]
    cases skipped with
    | nil =>
      obtain rfl : d = c := by simpa using congrArg List.head? text_eq
      exact absurd isMember (Bool.eq_false_iff.1 notMember)
    | cons e skipped =>
      obtain ⟨rfl, rest_eq⟩ : d = e ∧ rest = skipped ++ c :: after := by simpa using text_eq
      simpa [emptyMatch?] using ih false (before ++ [d]) rest_eq

end Pattern

/-! ## The word under a cursor -/

attribute [ext] Word

namespace Text

variable {line before after : Text} {column : Nat}

/-- A word character on either side of the cursor lets a word be found. -/
theorem exists_wordAt? (line_eq : line = before ++ after)
    (cursor_eq : line.byteOfColumn column = before.utf8Length)
    (touched : (∃ c ∈ before.getLast?, isWordPart c = true) ∨
      ∃ c ∈ after.head?, isWordPart c = true) :
    ∃ word, line.wordAt? column = some word := by
  obtain ⟨skipped, c, rest, parts, isPart, reached, notPassed⟩ : ∃ (skipped : Text) (c : Char)
      (rest : Text), line = skipped ++ c :: rest ∧ isWordPart c = true ∧
        skipped.utf8Length ≤ before.utf8Length ∧
        before.utf8Length ≤ (skipped ++ [c]).utf8Length := by
    rcases touched with ⟨c, last, isPart⟩ | ⟨c, first, isPart⟩
    · obtain ⟨lead, rfl⟩ := List.getLast?_eq_some_iff.1 last
      exact ⟨lead, c, after, by simpa using line_eq, isPart, by simp, by simp⟩
    · obtain ⟨rest, rfl⟩ := List.head?_eq_some_iff.1 first
      exact ⟨before, c, rest, line_eq, isPart, Nat.le_refl _, by simp⟩
  obtain ⟨span, found, start, stop⟩ := Pattern.exists_mem_runMatches false [] parts isPart
  rw [List.nil_append] at start stop
  have positive := c.utf8Size_pos
  rw [utf8Length_append, utf8Length_cons, utf8Length_nil] at stop notPassed
  refine (defaultWordPattern.matchesOf_spans line).exists_word_of_holds found ?_ ?_
  · omega
  · rw [cursor_eq, Span.holds_iff]
    omega

/-- A run that the cursor touches has a character next to the cursor. -/
theorem CursorAt.touched_of_run {left run right : Text}
    (cursorAt : (before ++ after).CursorAt before.utf8Length left run right)
    (isRun : Run isWordPart left run right) :
    (∃ c ∈ before.getLast?, isWordPart c = true) ∨ ∃ c ∈ after.head?, isWordPart c = true := by
  have cursorPrefix : before <+: before ++ after := List.prefix_append before after
  obtain ⟨lead, rfl⟩ := prefix_of_utf8Length_le cursorAt.prefix_start cursorPrefix cursorAt.reached
  have inRun := prefix_of_utf8Length_le cursorPrefix cursorAt.prefix_stop cursorAt.notPassed
  obtain ⟨rest, rfl⟩ := (List.prefix_append_right_inj left).1 inRun
  have after_eq : after = rest ++ right := by simpa using cursorAt.line_eq
  rcases List.eq_nil_or_concat lead with rfl | ⟨front, c, rfl⟩
  · right
    obtain ⟨c, tail, rfl⟩ := List.exists_cons_of_ne_nil (by simpa using isRun.nonempty)
    exact ⟨c, by rw [after_eq]; rfl, isRun.inside c (by simp)⟩
  · left
    exact ⟨c, by simp [← List.append_assoc], isRun.inside c (by simp)⟩

theorem wordAt?_sound {word : Word} (found : line.wordAt? column = some word) :
    ∃ left right, line.CursorAt (line.byteOfColumn column) left word.text right ∧
      Run isWordPart left word.text right ∧
      word.start = left.utf16Length ∧ word.stop = (left ++ word.text).utf16Length := by
  obtain ⟨span, member, held, isWord⟩ :=
    (defaultWordPattern.matchesOf_spans line).exists_of_wordAmong? found
  have nothingRead : ∀ c ∈ ([] : Text).getLast?, isWordPart c = true →
      ∀ d ∈ line.head?, isWordPart d = false := fun _ last => by cases last
  obtain ⟨left, run, right, cuts, isRun⟩ :=
    Pattern.run_of_mem_runMatches false nothingRead member
  obtain rfl := Option.some.inj (cuts.ofSpan?_eq.symm.trans isWord)
  exact ⟨left, right, cuts.cursorAt held, isRun, rfl, rfl⟩

/-- The word under a cursor is the run of word characters that the cursor touches. -/
theorem wordAt?_eq_some_iff (word : Word) :
    line.wordAt? column = some word ↔
      ∃ left right, line.CursorAt (line.byteOfColumn column) left word.text right ∧
        Run isWordPart left word.text right ∧
        word.start = left.utf16Length ∧ word.stop = (left ++ word.text).utf16Length := by
  refine ⟨wordAt?_sound, ?_⟩
  rintro ⟨left, right, cursorAt, isRun, start, stop⟩
  obtain ⟨before, after, rfl, cursor_eq, -⟩ := line.exists_cursor column
  have touched := CursorAt.touched_of_run (cursor_eq ▸ cursorAt) isRun
  obtain ⟨found, isFound⟩ := exists_wordAt? rfl cursor_eq touched
  obtain ⟨foundLeft, foundRight, foundAt, foundRun, foundStart, foundStop⟩ := wordAt?_sound isFound
  obtain ⟨rfl, text_eq, -⟩ := cursorAt.run_unique isRun foundAt foundRun
  rw [isFound, Word.ext text_eq (foundStart.trans start.symm) (by rw [foundStop, text_eq, stop])]

/-- On a line of word characters only, the word is the whole line. -/
theorem wordAt?_of_spelled (nonempty : line ≠ []) (spelled : ∀ c ∈ line, isWordPart c = true) :
    line.wordAt? 0 = some { text := line, start := 0, stop := line.utf16Length } :=
  (wordAt?_eq_some_iff _).2
    ⟨[], [], line.cursorAt_start, ⟨nonempty, spelled, by simp, by simp⟩, rfl, rfl⟩

theorem wordAt?_eq_none_iff (line_eq : line = before ++ after)
    (cursor_eq : line.byteOfColumn column = before.utf8Length) :
    line.wordAt? column = none ↔
      (∀ c ∈ before.getLast?, isWordPart c = false) ∧ ∀ c ∈ after.head?, isWordPart c = false := by
  constructor
  · intro notFound
    have untouched : ¬ ((∃ c ∈ before.getLast?, isWordPart c = true) ∨
        ∃ c ∈ after.head?, isWordPart c = true) := by
      intro touched
      obtain ⟨word, found⟩ := exists_wordAt? line_eq cursor_eq touched
      rw [notFound] at found
      cases found
    constructor
    · exact fun c last => Bool.eq_false_iff.2 fun isPart => untouched (.inl ⟨c, last, isPart⟩)
    · exact fun c first => Bool.eq_false_iff.2 fun isPart => untouched (.inr ⟨c, first, isPart⟩)
  · rintro ⟨lastOutside, firstOutside⟩
    subst line_eq
    refine Option.eq_none_iff_forall_ne_some.2 fun word found => ?_
    obtain ⟨left, right, cursorAt, isRun, -, -⟩ := wordAt?_sound found
    rw [cursor_eq] at cursorAt
    rcases cursorAt.touched_of_run isRun with ⟨c, last, isPart⟩ | ⟨c, first, isPart⟩
    · exact Bool.eq_false_iff.1 (lastOutside c last) isPart
    · exact Bool.eq_false_iff.1 (firstOutside c first) isPart

/-- The columns of the word under a cursor hold the column that was asked for, once that is
brought back to the line. -/
theorem wordAt?_holds {word : Word} (found : line.wordAt? column = some word) :
    word.start ≤ min column line.utf16Length ∧ min column line.utf16Length ≤ word.stop := by
  obtain ⟨left, right, cursorAt, isRun, start, stop⟩ := wordAt?_sound found
  obtain ⟨before, after, line_eq, cursor_eq, fallsAt⟩ := line.exists_cursor column
  rw [cursor_eq] at cursorAt
  have cursorPrefix : before <+: line := ⟨after, line_eq.symm⟩
  have reached :=
    (utf8Length_le_iff_utf16Length_le cursorAt.prefix_start cursorPrefix).1 cursorAt.reached
  have notPassed :=
    (utf8Length_le_iff_utf16Length_le cursorPrefix cursorAt.prefix_stop).1 cursorAt.notPassed
  rw [start, stop]
  rcases fallsAt with between | ⟨lead, c, rfl, isPair, column_eq⟩
  · omega
  · -- The cursor was moved to the end of a character of two units.  That is a word character, so
    -- the run does not start behind it.
    have notAtStart : left ≠ lead ++ [c] := by
      rintro rfl
      have outside := isRun.leftEnd c (by simp)
      exact Bool.eq_false_iff.1 outside (isWordPart_of_utf16Size isPair)
    obtain ⟨middle, before_eq⟩ :=
      prefix_of_utf8Length_le cursorAt.prefix_start cursorPrefix cursorAt.reached
    have nonempty : middle ≠ [] := by
      rintro rfl
      exact notAtStart (by simpa using before_eq)
    have positive := utf16Length_pos nonempty
    have beforeUnits := congrArg utf16Length before_eq
    have lineUnits := congrArg utf16Length line_eq
    simp only [utf16Length_append, utf16Length_cons, utf16Length_nil, isPair]
      at beforeUnits lineUnits notPassed ⊢
    omega

/-- The cursor falls between two characters.  There is no word if neither of them is a word
character.  Otherwise the word is the one run of word characters that the cursor touches, cut out
of the line and with its columns, and these hold the column that was asked for. -/
theorem wordAt?_maximal_run (line : Text) (column : Nat) :
    ∃ before after, line = before ++ after ∧ line.byteOfColumn column = before.utf8Length ∧
      (line.wordAt? column = none ↔
        (∀ c ∈ before.getLast?, isWordPart c = false) ∧
          ∀ c ∈ after.head?, isWordPart c = false) ∧
      ∀ word, line.wordAt? column = some word →
        ∃ left run right, line.CursorAt (line.byteOfColumn column) left run right ∧
          Run isWordPart left run right ∧
          (∀ otherLeft otherRun otherRight,
            line.CursorAt (line.byteOfColumn column) otherLeft otherRun otherRight →
            Run isWordPart otherLeft otherRun otherRight →
            otherLeft = left ∧ otherRun = run ∧ otherRight = right) ∧
          line.slice? left.utf8Length (left ++ run).utf8Length = some word.text ∧
          line.columnOfByte? left.utf8Length = some word.start ∧
          line.columnOfByte? (left ++ run).utf8Length = some word.stop ∧
          word.stop - word.start = word.text.utf16Length ∧
          word.start ≤ min column line.utf16Length ∧
          min column line.utf16Length ≤ word.stop := by
  obtain ⟨before, after, line_eq, cursor_eq, -⟩ := line.exists_cursor column
  refine ⟨before, after, line_eq, cursor_eq, wordAt?_eq_none_iff line_eq cursor_eq, ?_⟩
  intro word found
  obtain ⟨left, right, cursorAt, isRun, start, stop⟩ := wordAt?_sound found
  refine ⟨left, word.text, right, cursorAt, isRun, ?_, ?_, ?_, ?_, ?_, wordAt?_holds found⟩
  · intro otherLeft otherRun otherRight otherAt isOtherRun
    exact cursorAt.run_unique isRun otherAt isOtherRun
  · have cut := slice?_append left word.text right
    rwa [← cursorAt.line_eq, ← utf8Length_append] at cut
  · have column := columnOfByte?_utf8Length left (word.text ++ right)
    rwa [← cursorAt.line_eq, ← start] at column
  · have column := columnOfByte?_utf8Length (left ++ word.text) right
    rwa [List.append_assoc, ← cursorAt.line_eq, ← stop] at column
  · rw [start, stop, utf16Length_append, Nat.add_sub_cancel_left]

/-- A cursor inside the last character of a word. -/
theorem wordAt?_maximal_run_inside_pair :
    let line : Text := "(é𝔸)".toList
    let word : Word := { text := "é𝔸".toList, start := 1, stop := 4 }
    line.wordAt? 3 = some word ∧
      ∃ left run right, line.CursorAt (line.byteOfColumn 3) left run right ∧
        Run isWordPart left run right ∧
        line.slice? left.utf8Length (left ++ run).utf8Length = some word.text ∧
        word.start ≤ 3 ∧ 3 ≤ word.stop := by
  intro line word
  have found : line.wordAt? 3 = some word := by decide +kernel
  obtain ⟨-, -, -, -, -, described⟩ := wordAt?_maximal_run line 3
  obtain ⟨left, run, right, cursorAt, isRun, -, cut, -, -, -, start, stop⟩ := described word found
  exact ⟨found, left, run, right, cursorAt, isRun, cut, start, stop⟩

end Text

end GotoDefinition
