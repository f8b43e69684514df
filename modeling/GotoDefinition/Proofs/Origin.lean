import GotoDefinition.Proofs.Text.Run
import GotoDefinition.Resolver
import Mathlib.Data.List.Infix

/-!
# The origin of a link

The origin of a link is a copy of the target's name that the cursor touches.  The search for it
reads copies from left to right and goes on behind each one, so that it passes over a copy that
begins inside an earlier one (`mem_literalMatches_or_overlapped`).  What it finds is always a copy
at the cursor; that it finds one whenever there is one holds exactly for the names of which no two
copies can overlap.
-/

namespace GotoDefinition

/-- Copies of the text can overlap: a part of it, but not all of it, is both how it begins and
how it ends. -/
def Text.SelfOverlapping (text : Text) : Prop :=
  ∃ border, border ≠ [] ∧ border ≠ text ∧ border <+: text ∧ border <:+ text

/-! ## Compiled literals -/

namespace PatternCompiler

variable {compiler : PatternCompiler} {text : Text}

theorem literal?_eq_some_iff (pattern : Pattern) :
    compiler.literal? text = some pattern ↔
      compiler.accepts text = true ∧ Pattern.literal text = pattern := by
  rw [literal?]
  split
  next accepted => simp [accepted]
  next refused => simp [refused]

/-- The standard compiler goes by the length of a text in bytes alone. -/
theorem standard_accepts_iff : standard.accepts text = true ↔ text.utf8Length ≤ 327673 := by
  rw [standard, decide_eq_true_iff, literalSize, sizeLimit]
  omega

end PatternCompiler

/-! ## Copies on a line -/

namespace Pattern

variable {needle : Text}

theorem spans_literal (nonempty : needle ≠ []) (line : Text) :
    (Pattern.literal needle).spans line = literalMatches needle 0 line := by
  cases needle with
  | nil => exact absurd rfl nonempty
  | cons c rest => rfl

theorem literalMatches_of_short {text : Text} (short : text.length < needle.length)
    (offset : Nat) : literalMatches needle offset text = [] := by
  induction text generalizing offset with
  | nil => rw [literalMatches]
  | cons c rest ih =>
    have notHere : ¬ needle <+: c :: rest :=
      fun here => absurd here.length_le (Nat.not_le.2 short)
    rw [literalMatches_skip notHere, ih (Nat.lt_of_succ_lt short)]

theorem copy_of_mem_literalMatches (nonempty : needle ≠ []) (before : Text) {text : Text}
    {span : Span} (found : span ∈ literalMatches needle before.utf8Length text) :
    ∃ left right, span.Cuts (before ++ text) left needle right := by
  induction text using copyByCopy nonempty generalizing before with
  | nil =>
    rw [literalMatches] at found
    exact absurd found List.not_mem_nil
  | copy rest ih =>
    rw [literalMatches_copy nonempty, ← Text.utf8Length_append] at found
    rcases List.mem_cons.1 found with rfl | later
    · exact ⟨before, rest, rfl, rfl, rfl⟩
    · simpa using ih (before ++ needle) later
  | skip c rest notHere ih =>
    rw [literalMatches_skip notHere] at found
    have shifted : before.utf8Length + c.utf8Size = (before ++ [c]).utf8Length := by simp
    rw [shifted] at found
    simpa using ih (before ++ [c]) found

/-- Every copy is a match, unless it begins inside an earlier copy. -/
theorem mem_literalMatches_or_overlapped (nonempty : needle ≠ []) (before : Text)
    {text skipped after : Text} (text_eq : text = skipped ++ (needle ++ after)) :
    (∃ span ∈ literalMatches needle before.utf8Length text,
        span.Cuts (before ++ text) (before ++ skipped) needle after) ∨
      ∃ left right, text = left ++ (needle ++ right) ∧ left.length < skipped.length ∧
        skipped.length < left.length + needle.length := by
  induction text using copyByCopy nonempty generalizing before skipped with
  | nil => simp [nonempty] at text_eq
  | copy rest ih =>
    rw [literalMatches_copy nonempty, ← Text.utf8Length_append]
    rcases Nat.lt_or_ge skipped.length needle.length with begins | behind
    · cases skipped with
      | nil =>
        obtain rfl : rest = after := by simpa using text_eq
        exact .inl ⟨_, List.mem_cons_self, by simp, by simp, by simp⟩
      | cons c skipped => exact .inr ⟨[], rest, rfl, by simp, by simpa using begins⟩
    · obtain ⟨more, rfl⟩ : needle <+: skipped :=
        List.prefix_of_prefix_length_le (List.prefix_append needle rest)
          (text_eq ▸ List.prefix_append skipped _) behind
      have rest_eq : rest = more ++ (needle ++ after) := by simpa using text_eq
      rcases ih (before ++ needle) rest_eq with ⟨span, found, cuts⟩ | ⟨left, right, parts, bounds⟩
      · exact .inl ⟨span, List.mem_cons_of_mem _ found, by simpa using cuts⟩
      · refine .inr ⟨needle ++ left, right, by simp [parts], ?_⟩
        simp only [List.length_append]
        omega
  | skip c rest notHere ih =>
    cases skipped with
    | nil => exact absurd ⟨after, text_eq.symm⟩ notHere
    | cons d skipped =>
      obtain ⟨rfl, rest_eq⟩ : c = d ∧ rest = skipped ++ (needle ++ after) := by simpa using text_eq
      have shifted : before.utf8Length + c.utf8Size = (before ++ [c]).utf8Length := by simp
      rw [literalMatches_skip notHere, shifted]
      rcases ih (before ++ [c]) rest_eq with ⟨span, found, cuts⟩ | ⟨left, right, parts, bounds⟩
      · exact .inl ⟨span, found, by simpa using cuts⟩
      · refine .inr ⟨c :: left, right, by simp [parts], ?_⟩
        simp only [List.length_cons]
        omega

end Pattern

/-- Of a text that does not overlap itself no two copies overlap. -/
theorem Text.apart_of_not_selfOverlapping {name line left right before after : Text}
    (notOverlapping : ¬ name.SelfOverlapping) (copy : line = left ++ (name ++ right))
    (later : line = before ++ (name ++ after)) (ahead : left.length < before.length) :
    left.length + name.length ≤ before.length := by
  refine Nat.not_lt.1 fun overlaps => notOverlapping ?_
  obtain ⟨lead, rfl⟩ : left <+: before :=
    List.prefix_of_prefix_length_le ⟨_, copy.symm⟩ ⟨_, later.symm⟩ (Nat.le_of_lt ahead)
  rw [List.length_append] at ahead overlaps
  have shifted : name ++ right = lead ++ (name ++ after) := by
    simpa using copy.symm.trans later
  obtain ⟨border, rfl⟩ : lead <+: name :=
    List.prefix_of_prefix_length_le ⟨_, shifted.symm⟩ (List.prefix_append _ right) (by omega)
  have borders : border ++ right = lead ++ border ++ after := by simpa using shifted
  rw [List.length_append] at overlaps
  refine ⟨border, ?_, ?_, ?_, List.suffix_append lead border⟩
  · rintro rfl
    simp at overlaps
  · intro whole
    have := congrArg List.length whole
    rw [List.length_append] at this
    omega
  · exact List.prefix_of_prefix_length_le (List.prefix_append border right) ⟨after, borders.symm⟩
      (by simp)

/-! ## Origins -/

namespace Resolver

variable {compiler : PatternCompiler} {line name : Text} {position : Position}

theorem originRange?_eq_some_iff (range : Range) :
    originRange? compiler line position name = some range ↔
      compiler.accepts name = true ∧ ∃ word,
        line.matchAt? position.character (.literal name) = some word ∧
          word.toRange position.line = range := by
  simp [originRange?, Option.bind_eq_some_iff, PatternCompiler.literal?_eq_some_iff, and_assoc]

theorem accepts_of_originRange? {range : Range}
    (found : originRange? compiler line position name = some range) :
    compiler.accepts name = true :=
  ((originRange?_eq_some_iff range).1 found).1

theorem originRange?_of_refused (refused : compiler.accepts name = false) :
    originRange? compiler line position name = none := by
  refine Option.eq_none_iff_forall_ne_some.2 fun range found => ?_
  have accepted := accepts_of_originRange? found
  rw [refused] at accepted
  cases accepted

theorem copy_of_originRange? (nonempty : name ≠ []) {range : Range}
    (found : originRange? compiler line position name = some range) :
    ∃ before after, line.CursorAt (line.byteOfColumn position.character) before name after ∧
      range = { start := { line := position.line, character := before.utf16Length }
                stop := { line := position.line, character := (before ++ name).utf16Length } } := by
  obtain ⟨-, word, isMatch, rfl⟩ := (originRange?_eq_some_iff range).1 found
  obtain ⟨span, member, held, isWord⟩ :=
    ((Pattern.literal name).matchesOf_spans line).exists_of_wordAmong? isMatch
  rw [Pattern.spans_literal nonempty] at member
  obtain ⟨before, after, cuts⟩ := Pattern.copy_of_mem_literalMatches nonempty [] member
  obtain rfl := Option.some.inj (cuts.ofSpan?_eq.symm.trans isWord)
  exact ⟨before, after, cuts.cursorAt held, rfl⟩

/-- A copy at the cursor lets an origin be found, unless it begins inside an earlier copy. -/
theorem isSome_originRange?_or_overlapped (nonempty : name ≠ [])
    (accepted : compiler.accepts name = true) {before after : Text}
    (cursorAt : line.CursorAt (line.byteOfColumn position.character) before name after) :
    (originRange? compiler line position name).isSome ∨
      ∃ left right, line = left ++ (name ++ right) ∧ left.length < before.length ∧
        before.length < left.length + name.length := by
  refine (Pattern.mem_literalMatches_or_overlapped nonempty [] cursorAt.line_eq).imp_left ?_
  rintro ⟨span, found, cuts⟩
  have member : span ∈ (Pattern.literal name).spans line := by
    rw [Pattern.spans_literal nonempty]
    exact found
  have held : span.holds (line.byteOfColumn position.character) = true := by
    rw [Span.holds_iff, cuts.start_eq, cuts.stop_eq]
    exact ⟨cursorAt.reached, cursorAt.notPassed⟩
  obtain ⟨word, isMatch⟩ := ((Pattern.literal name).matchesOf_spans line).exists_word_of_holds
    member (cuts.start_ne_stop_iff.2 nonempty) held
  exact Option.isSome_iff_exists.2
    ⟨_, (originRange?_eq_some_iff _).2 ⟨accepted, word, isMatch, rfl⟩⟩

theorem originRange?_missed (compiler : PatternCompiler) (overlapping : name.SelfOverlapping) :
    ∃ (line : Text) (position : Position) (before after : Text),
      line.CursorAt (line.byteOfColumn position.character) before name after ∧
        originRange? compiler line position name = none := by
  obtain ⟨border, borderNonempty, borderNotWhole, ⟨tail, begins⟩, ⟨lead, ends⟩⟩ := overlapping
  have nonempty : name ≠ [] := by
    rintro rfl
    exact borderNonempty (List.append_eq_nil_iff.1 begins).1
  have tailNonempty : tail ≠ [] := by
    rintro rfl
    exact borderNotWhole (by simpa using begins)
  have tailShort : tail.length < name.length := by
    have positive := List.length_pos_iff.2 borderNonempty
    rw [← begins, List.length_append]
    omega
  -- Two copies share the border: the first one is found, and the cursor is at the end of the
  -- second, which what is left of the line behind the first is too short for.
  obtain ⟨line, line_eq⟩ : ∃ line : Text, line = lead ++ name := ⟨_, rfl⟩
  have firstCopy : line = name ++ tail := by
    rw [line_eq, ← ends, List.append_assoc, begins, ends]
  have cursor_eq : line.byteOfColumn line.utf16Length = line.utf8Length := by
    simpa using line.byteOfColumn_utf16Length []
  refine ⟨line, ⟨0, line.utf16Length⟩, lead, [], ⟨by simp [line_eq], ?_, ?_⟩, ?_⟩
  · rw [cursor_eq, line_eq, Text.utf8Length_append]
    omega
  · rw [cursor_eq, line_eq]
  · refine Option.eq_none_iff_forall_ne_some.2 fun range found => ?_
    obtain ⟨-, word, isMatch, -⟩ := (originRange?_eq_some_iff range).1 found
    obtain ⟨span, member, held, -⟩ :=
      ((Pattern.literal name).matchesOf_spans line).exists_of_wordAmong? isMatch
    rw [Pattern.spans_literal nonempty, firstCopy, Pattern.literalMatches_copy nonempty,
      Pattern.literalMatches_of_short tailShort, List.mem_singleton] at member
    obtain ⟨-, notPassed⟩ := (span.holds_iff _).1 held
    have lineLength := congrArg Text.utf8Length firstCopy
    have tailPositive := Text.utf8Length_pos tailNonempty
    rw [Text.utf8Length_append] at lineLength
    simp only [cursor_eq, member] at notPassed
    omega

/-- The origin of a link, where there is one, is a copy of the name that the cursor touches, with
its columns.  Of a name that can be compiled a copy at the cursor is missed only if it begins inside
an earlier one; of a name that cannot, every copy is missed.  So having an origin and having a copy
at the cursor are the same on every line exactly for the names that can be compiled and do not
overlap themselves. -/
theorem originRange?_finds_copies (compiler : PatternCompiler) (nonempty : name ≠ []) :
    (∀ (line : Text) (position : Position) (range : Range),
      originRange? compiler line position name = some range →
        ∃ before after, line.CursorAt (line.byteOfColumn position.character) before name after ∧
          range.start = { line := position.line, character := before.utf16Length } ∧
          range.stop = { line := position.line, character := (before ++ name).utf16Length }) ∧
    (compiler.accepts name = true → ∀ (line : Text) (position : Position) (before after : Text),
      line.CursorAt (line.byteOfColumn position.character) before name after →
      (originRange? compiler line position name).isSome ∨
        ∃ left right, line = left ++ (name ++ right) ∧ left.length < before.length ∧
          before.length < left.length + name.length) ∧
    (compiler.accepts name = false → ∀ (line : Text) (position : Position),
      originRange? compiler line position name = none) ∧
    ((∀ (line : Text) (position : Position),
        (originRange? compiler line position name).isSome ↔ ∃ before after,
          line.CursorAt (line.byteOfColumn position.character) before name after) ↔
      compiler.accepts name = true ∧ ¬ name.SelfOverlapping) := by
  refine ⟨?_, fun accepted _ _ _ _ => isSome_originRange?_or_overlapped nonempty accepted,
    fun refused _ _ => originRange?_of_refused refused, ?_, ?_⟩
  · intro line position range found
    obtain ⟨before, after, cursorAt, rfl⟩ := copy_of_originRange? nonempty found
    exact ⟨before, after, cursorAt, rfl, rfl⟩
  · intro complete
    constructor
    -- The name itself is a line with a copy at its start, and an origin there means that the name
    -- was compiled.
    · have found := (complete name ⟨0, 0⟩).2 ⟨[], [], Text.cursorAt_start name⟩
      obtain ⟨range, isRange⟩ := Option.isSome_iff_exists.1 found
      exact accepts_of_originRange? isRange
    · intro overlapping
      obtain ⟨line, position, before, after, cursorAt, missed⟩ :=
        originRange?_missed compiler overlapping
      have found := (complete line position).2 ⟨before, after, cursorAt⟩
      rw [missed] at found
      cases found
  · rintro ⟨accepted, notOverlapping⟩ line position
    constructor
    · intro found
      obtain ⟨range, isRange⟩ := Option.isSome_iff_exists.1 found
      obtain ⟨before, after, cursorAt, -⟩ := copy_of_originRange? nonempty isRange
      exact ⟨before, after, cursorAt⟩
    · rintro ⟨before, after, cursorAt⟩
      refine (isSome_originRange?_or_overlapped nonempty accepted cursorAt).resolve_right ?_
      rintro ⟨left, right, copy, ahead, overlaps⟩
      have apart := Text.apart_of_not_selfOverlapping notOverlapping copy cursorAt.line_eq ahead
      omega

/-- A name with parentheses, on a line that has it twice: there is an origin at the end of the
second copy, and none between the two. -/
theorem originRange?_finds_copies_of_call :
    let name : Text := "do(it)".toList
    let line : Text := "do(it);𝔸do(it)".toList
    name ≠ [] ∧ PatternCompiler.standard.accepts name = true ∧ ¬ name.SelfOverlapping ∧
      (originRange? .standard line ⟨4, 15⟩ name).isSome ∧
      ¬ ∃ before after, line.CursorAt (line.byteOfColumn 7) before name after := by
  intro name line
  have nonempty : name ≠ [] := by decide
  have accepted : PatternCompiler.standard.accepts name = true := by decide
  have notOverlapping : ¬ name.SelfOverlapping := by
    have noBorder : ∀ border ∈ name.inits, border = [] ∨ border = name ∨ ¬ border <:+ name := by
      decide +kernel
    rintro ⟨border, borderNonempty, notWhole, begins, ends⟩
    rcases noBorder border ((List.mem_inits border name).2 begins) with isNil | isWhole | noEnd
    · exact borderNonempty isNil
    · exact notWhole isWhole
    · exact noEnd ends
  obtain ⟨-, -, -, -, complete⟩ := originRange?_finds_copies .standard nonempty
  have found_iff := complete ⟨accepted, notOverlapping⟩ line
  refine ⟨nonempty, accepted, notOverlapping, (found_iff ⟨4, 15⟩).2 ?_, fun copied => ?_⟩
  · exact ⟨"do(it);𝔸".toList, [], by decide +kernel, by decide +kernel, by decide +kernel⟩
  · have missing : originRange? .standard line ⟨4, 7⟩ name = none := by decide +kernel
    have found := (found_iff ⟨4, 7⟩).2 copied
    rw [missing] at found
    cases found

/-- Of three letters the last two are a copy of the name that begins inside the copy that the
first two are. -/
theorem originRange?_misses_overlapping_copy :
    let line : Text := "aaa".toList
    let name : Text := "aa".toList
    PatternCompiler.standard.accepts name = true ∧
      line.CursorAt (line.byteOfColumn 3) ['a'] name [] ∧
      originRange? .standard line ⟨0, 3⟩ name = none := by
  intro line name
  exact ⟨by decide, ⟨by decide, by decide, by decide⟩, by decide +kernel⟩

/-! ## Names made of word characters -/

section WordNames

variable {word : Word} {left right : Text}

/-- A copy of such a name at the cursor is the whole word under the cursor. -/
theorem copy_eq_run (named : word.text <:+: name) (spelled : ∀ c ∈ name, isWordPart c = true)
    {cursor : Nat} (cursorAt : line.CursorAt cursor left word.text right)
    (isRun : Run isWordPart left word.text right) {before after : Text}
    (copyAt : line.CursorAt cursor before name after) : before = left ∧ name = word.text := by
  obtain ⟨lead, rest, before_eq, run_eq⟩ := cursorAt.within_run isRun copyAt spelled
  -- The run has the name in it and is itself in the name, so there is nothing around the name.
  have notLonger := named.length_le
  have lengths := congrArg List.length run_eq
  simp only [List.length_append] at lengths
  obtain rfl : lead = [] := List.length_eq_zero_iff.1 (by omega)
  refine ⟨by simpa using before_eq, ?_⟩
  exact (named.eq_of_length (by omega)).symm

/-- No copy of a run of word characters reaches into it from the left. -/
theorem not_overlapped_run (isRun : Run isWordPart left name right) {before after : Text}
    (line_eq : line = left ++ (name ++ right)) (copy : line = before ++ (name ++ after))
    (ahead : before.length < left.length) : before.length + name.length ≤ left.length := by
  refine Nat.not_lt.1 fun overlaps => ?_
  have startsAhead : before <+: left :=
    List.prefix_of_prefix_length_le ⟨_, copy.symm⟩ ⟨_, line_eq.symm⟩ (Nat.le_of_lt ahead)
  have reachesIn : left <+: before ++ name := by
    refine List.prefix_of_prefix_length_le ⟨_, line_eq.symm⟩ ⟨after, ?_⟩ (by simp; omega)
    rw [copy, List.append_assoc]
  -- The copy would hold the offset at which the run starts, and so lie in the run.
  have runAt : line.CursorAt left.utf8Length left name right := ⟨line_eq, Nat.le_refl _, by simp⟩
  have copyAt : line.CursorAt left.utf8Length before name after :=
    ⟨copy, Text.utf8Length_le_of_prefix startsAhead, Text.utf8Length_le_of_prefix reachesIn⟩
  obtain ⟨lead, -, before_eq, -⟩ := runAt.within_run isRun copyAt isRun.inside
  have lengths := congrArg List.length before_eq
  rw [List.length_append] at lengths
  omega

/-- For a name that contains the word under the cursor and has word characters only, the origin
is that word or nothing. -/
theorem originRange?_of_wordAt? (isWord : line.wordAt? position.character = some word)
    (named : word.text <:+: name) (spelled : ∀ c ∈ name, isWordPart c = true) :
    originRange? compiler line position name =
      if compiler.accepts name = true ∧ name = word.text then some (word.toRange position.line)
      else none := by
  obtain ⟨left, right, cursorAt, isRun, start, stop⟩ := (Text.wordAt?_eq_some_iff word).1 isWord
  have nonempty : name ≠ [] := by
    rintro rfl
    exact isRun.nonempty (List.infix_nil.1 named)
  split
  next compiled =>
    obtain ⟨accepted, rfl⟩ := compiled
    have found : (originRange? compiler line position word.text).isSome := by
      refine (isSome_originRange?_or_overlapped nonempty accepted cursorAt).resolve_right ?_
      rintro ⟨before, after, copy, ahead, overlaps⟩
      have apart := not_overlapped_run isRun cursorAt.line_eq copy ahead
      omega
    obtain ⟨range, isRange⟩ := Option.isSome_iff_exists.1 found
    obtain ⟨before, after, copyAt, rfl⟩ := copy_of_originRange? nonempty isRange
    obtain ⟨rfl, -⟩ := copy_eq_run named spelled cursorAt isRun copyAt
    rw [isRange, Word.toRange, start, stop]
  next refusedOrOther =>
    refine Option.eq_none_iff_forall_ne_some.2 fun range isRange => ?_
    obtain ⟨before, after, copyAt, -⟩ := copy_of_originRange? nonempty isRange
    obtain ⟨-, name_eq⟩ := copy_eq_run named spelled cursorAt isRun copyAt
    exact refusedOrOther ⟨accepts_of_originRange? isRange, name_eq⟩

/-- That the origin is the word wherever the name is the word, and nothing elsewhere, holds exactly
for the names that can be compiled. -/
theorem originRange?_of_wordAt?_iff_accepts (nonempty : name ≠ [])
    (spelled : ∀ c ∈ name, isWordPart c = true) :
    (∀ (line : Text) (position : Position) (word : Word),
      line.wordAt? position.character = some word → word.text <:+: name →
        originRange? compiler line position name =
          if name = word.text then some (word.toRange position.line) else none) ↔
      compiler.accepts name = true := by
  constructor
  · intro isWordOrNothing
    -- On the line that is the name itself, the word at the start is the name.
    have found := isWordOrNothing name ⟨0, 0⟩ _ (Text.wordAt?_of_spelled nonempty spelled)
      (List.infix_refl name)
    rw [if_pos rfl] at found
    exact accepts_of_originRange? found
  · intro accepted line position word isWord named
    rw [originRange?_of_wordAt? isWord named spelled]
    simp only [accepted, true_and]

end WordNames

end Resolver

end GotoDefinition
