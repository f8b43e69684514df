import GotoDefinition.Proofs.Text.Units
import GotoDefinition.Text.Word
import Mathlib.Data.List.Find

/-!
# Matches and the cursor

The matches of a pattern on a line are spans between characters that follow one another
without overlap (`MatchesOf`).  On such spans the search for the one at the cursor may compare
bytes and may stop early: what it finds is the first match of the whole line whose columns
hold the column of the cursor.
-/

namespace GotoDefinition

/-! ## Spans as pieces of a line -/

/-- An offset lies in a span or at one of its ends. -/
def Span.holds (span : Span) (offset : Nat) : Bool :=
  span.start ≤ offset && offset ≤ span.stop

/-- A column lies in a word or at one of its ends. -/
def Word.holds (word : Word) (column : Nat) : Bool :=
  word.start ≤ column && column ≤ word.stop

@[simp] theorem Word.holds_iff (word : Word) (column : Nat) :
    word.holds column = true ↔ word.start ≤ column ∧ column ≤ word.stop := by
  simp [holds]

namespace Span

@[simp] theorem holds_iff (span : Span) (offset : Nat) :
    span.holds offset = true ↔ span.start ≤ offset ∧ offset ≤ span.stop := by
  simp [holds]

/-- A span cuts a line in three, the middle piece being what it covers. -/
structure Cuts (span : Span) (line before piece after : Text) : Prop where
  line_eq : line = before ++ (piece ++ after)
  start_eq : span.start = before.utf8Length
  stop_eq : span.stop = (before ++ piece).utf8Length

namespace Cuts

variable {span : Span} {line before piece after : Text}

theorem start_le_stop (cuts : span.Cuts line before piece after) : span.start ≤ span.stop := by
  rw [cuts.start_eq, cuts.stop_eq, Text.utf8Length_append]
  omega

theorem start_ne_stop_iff (cuts : span.Cuts line before piece after) :
    span.start ≠ span.stop ↔ piece ≠ [] := by
  rw [cuts.start_eq, cuts.stop_eq, Text.utf8Length_append]
  constructor
  · rintro differ rfl
    exact differ (by simp)
  · intro nonempty
    have positive := Text.utf8Length_pos nonempty
    omega

theorem ofSpan?_eq (cuts : span.Cuts line before piece after) :
    Word.ofSpan? line span =
      some { text := piece, start := before.utf16Length
             stop := (before ++ piece).utf16Length } := by
  obtain ⟨rfl, start_eq, stop_eq⟩ := cuts
  have cut := Text.slice?_append before piece after
  have start := Text.columnOfByte?_utf8Length before (piece ++ after)
  have stop := Text.columnOfByte?_utf8Length (before ++ piece) after
  rw [← Text.utf8Length_append] at cut
  rw [List.append_assoc] at stop
  rw [Word.ofSpan?, start_eq, stop_eq, cut, start, stop]
  rfl

end Cuts

end Span

/-- A line is `before`, `piece` and `after`, and the cursor lies in the piece or at one of its
ends. -/
structure Text.CursorAt (line : Text) (cursor : Nat) (before piece after : Text) : Prop where
  line_eq : line = before ++ (piece ++ after)
  reached : before.utf8Length ≤ cursor
  notPassed : cursor ≤ (before ++ piece).utf8Length

/-- At the start of a line the cursor touches the whole of it. -/
theorem Text.cursorAt_start (line : Text) : line.CursorAt (line.byteOfColumn 0) [] line [] where
  line_eq := by simp
  reached := by simp
  notPassed := by simp

theorem Span.Cuts.cursorAt {span : Span} {line before piece after : Text} {cursor : Nat}
    (cuts : span.Cuts line before piece after) (held : span.holds cursor = true) :
    line.CursorAt cursor before piece after := by
  obtain ⟨reached, notPassed⟩ := (span.holds_iff cursor).1 held
  exact ⟨cuts.line_eq, cuts.start_eq ▸ reached, cuts.stop_eq ▸ notPassed⟩

/-! ## Early stop -/

theorem spanAt?_eq_find? {spans : List Span} (forward : ∀ span ∈ spans, span.start ≤ span.stop)
    (ordered : spans.Pairwise fun span later => span.stop ≤ later.start) (cursor : Nat) :
    spanAt? spans cursor =
      spans.find? fun span => span.start != span.stop && span.holds cursor := by
  induction spans with
  | nil => rfl
  | cons span later ih =>
    obtain ⟨spanForward, laterForward⟩ := List.forall_mem_cons.1 forward
    obtain ⟨behind, laterOrdered⟩ := List.pairwise_cons.1 ordered
    have rest := ih laterForward laterOrdered
    unfold spanAt? at rest ⊢
    by_cases empty : span.start = span.stop
    · simpa [empty] using rest
    · by_cases reached : span.start ≤ cursor
      · by_cases inside : cursor ≤ span.stop
        · simp [empty, reached, inside, Span.holds]
        · simpa [empty, reached, inside, Span.holds] using rest
      · -- The spans behind this one start even later, so none of them holds the cursor.
        have noneLater : later.find? (fun span =>
            span.start != span.stop && span.holds cursor) = none := by
          refine List.find?_eq_none.2 fun other member => ?_
          have beyond := behind other member
          simp only [Bool.and_eq_true, Span.holds_iff]
          omega
        have notHeld : span.holds cursor = false := by simp [Span.holds, reached]
        simp [empty, reached, notHeld, noneLater]

/-! ## Matches of a pattern -/

/-- Spans that may be the matches of a pattern on a line: each one lies between characters,
and starts no earlier than the one ahead of it stops. -/
structure MatchesOf (line : Text) (spans : List Span) : Prop where
  cut : ∀ span ∈ spans, ∃ before piece after, span.Cuts line before piece after
  ordered : spans.Pairwise fun span later => span.stop ≤ later.start

namespace MatchesOf

variable {line : Text} {spans : List Span}

theorem spanAt?_eq (matched : MatchesOf line spans) (cursor : Nat) :
    spanAt? spans cursor =
      spans.find? fun span => span.start != span.stop && span.holds cursor := by
  refine spanAt?_eq_find? (fun span member => ?_) matched.ordered cursor
  obtain ⟨before, piece, after, cuts⟩ := matched.cut span member
  exact cuts.start_le_stop

theorem exists_of_wordAmong? (matched : MatchesOf line spans) {column : Nat} {word : Word}
    (found : line.wordAmong? column spans = some word) :
    ∃ span ∈ spans, span.holds (line.byteOfColumn column) = true ∧
      Word.ofSpan? line span = some word := by
  rw [Text.wordAmong?, matched.spanAt?_eq] at found
  obtain ⟨span, isFirst, isWord⟩ := Option.bind_eq_some_iff.1 found
  obtain ⟨-, held⟩ : (span.start != span.stop) = true ∧
      span.holds (line.byteOfColumn column) = true := by
    simpa using List.find?_some isFirst
  exact ⟨span, List.mem_of_find?_eq_some isFirst, held, isWord⟩

theorem exists_word_of_holds (matched : MatchesOf line spans) {column : Nat} {span : Span}
    (member : span ∈ spans) (nonempty : span.start ≠ span.stop)
    (held : span.holds (line.byteOfColumn column) = true) :
    ∃ word, line.wordAmong? column spans = some word := by
  rw [Text.wordAmong?, matched.spanAt?_eq]
  obtain ⟨first, isFirst⟩ : ∃ first, spans.find? (fun span =>
      span.start != span.stop && span.holds (line.byteOfColumn column)) = some first :=
    Option.isSome_iff_exists.1 (List.find?_isSome.2 ⟨span, member, by simpa [nonempty] using held⟩)
  obtain ⟨before, piece, after, cuts⟩ := matched.cut first (List.mem_of_find?_eq_some isFirst)
  exact ⟨_, by rw [isFirst, Option.bind_some, cuts.ofSpan?_eq]⟩

/-- Offsets of a line and their columns are ordered alike, so a match holds the cursor in bytes
exactly if its word does in columns. -/
theorem any_holds_eq (matched : MatchesOf line spans) {span : Span} (member : span ∈ spans)
    {before : Text} (cursorPrefix : before <+: line) :
    (Word.ofSpan? line span).any (·.holds before.utf16Length) = span.holds before.utf8Length := by
  obtain ⟨left, piece, right, cuts⟩ := matched.cut span member
  have startPrefix : left <+: line := ⟨piece ++ right, cuts.line_eq.symm⟩
  have stopPrefix : left ++ piece <+: line := ⟨right, by rw [cuts.line_eq, List.append_assoc]⟩
  rw [cuts.ofSpan?_eq, Option.any_some, Bool.eq_iff_iff, Word.holds_iff, Span.holds_iff,
    cuts.start_eq, cuts.stop_eq, Text.utf8Length_le_iff_utf16Length_le startPrefix cursorPrefix,
    Text.utf8Length_le_iff_utf16Length_le cursorPrefix stopPrefix]

theorem wordAmong?_eq_find? (matched : MatchesOf line spans) {before : Text}
    (cursorPrefix : before <+: line) {column : Nat}
    (cursor_eq : line.byteOfColumn column = before.utf8Length) :
    line.wordAmong? column spans =
      ((spans.filter fun span => span.start != span.stop).filterMap (Word.ofSpan? line)).find?
        (·.holds before.utf16Length) := by
  rw [Text.wordAmong?, cursor_eq, matched.spanAt?_eq, List.find?_filterMap, List.find?_filter]
  congr 1
  refine List.find?_congr fun span member => ?_
  rw [matched.any_holds_eq member cursorPrefix, Bool.decide_and, Bool.decide_eq_true,
    Bool.decide_eq_true]

theorem wordAmong?_eq_none_iff (matched : MatchesOf line spans) {before : Text}
    (cursorPrefix : before <+: line) {column : Nat}
    (cursor_eq : line.byteOfColumn column = before.utf8Length) :
    line.wordAmong? column spans = none ↔
      ∀ span ∈ spans, span.start ≠ span.stop →
        ∃ word, Word.ofSpan? line span = some word ∧ word.holds before.utf16Length = false := by
  rw [matched.wordAmong?_eq_find? cursorPrefix cursor_eq, List.find?_eq_none]
  constructor
  · intro noneHolds span member nonempty
    obtain ⟨left, piece, right, cuts⟩ := matched.cut span member
    refine ⟨_, cuts.ofSpan?_eq, Bool.eq_false_iff.2 (noneHolds _ ?_)⟩
    exact List.mem_filterMap.2
      ⟨span, List.mem_filter.2 ⟨member, bne_iff_ne.2 nonempty⟩, cuts.ofSpan?_eq⟩
  · intro noneHolds word isWord
    obtain ⟨span, isMatch, made⟩ := List.mem_filterMap.1 isWord
    obtain ⟨member, nonempty⟩ := List.mem_filter.1 isMatch
    obtain ⟨same, alsoMade, notHeld⟩ := noneHolds span member (bne_iff_ne.1 nonempty)
    obtain rfl : same = word := Option.some.inj (alsoMade.symm.trans made)
    exact Bool.eq_false_iff.1 notHeld

theorem spanAt?_of_stop (matched : MatchesOf line spans) {span : Span} (member : span ∈ spans)
    (nonempty : span.start ≠ span.stop) : spanAt? spans span.stop = some span := by
  obtain ⟨before, piece, after, cuts⟩ := matched.cut span member
  have forward := cuts.start_le_stop
  obtain ⟨earlier, later, rfl⟩ := List.append_of_mem member
  rw [matched.spanAt?_eq, List.find?_eq_some_iff_append]
  refine ⟨by simp [nonempty, forward], earlier, later, rfl, ?_⟩
  intro other isEarlier
  -- What comes earlier has stopped where this match starts, so it does not reach the cursor.
  have ahead : other.stop ≤ span.start :=
    (List.pairwise_append.1 matched.ordered).2.2 other isEarlier span List.mem_cons_self
  have tooShort : ¬ span.stop ≤ other.stop := by omega
  simp [Span.holds, tooShort]

theorem wordAmong?_of_stop (matched : MatchesOf line spans) {before : Text}
    (cursorPrefix : before <+: line) {column : Nat}
    (cursor_eq : line.byteOfColumn column = before.utf8Length) {span : Span}
    (member : span ∈ spans) (nonempty : span.start ≠ span.stop) {word : Word}
    (isWord : Word.ofSpan? line span = some word) (stops : word.stop = before.utf16Length) :
    line.wordAmong? column spans = some word := by
  obtain ⟨left, piece, right, cuts⟩ := matched.cut span member
  have stopPrefix : left ++ piece <+: line := ⟨right, by rw [cuts.line_eq, List.append_assoc]⟩
  obtain rfl := Option.some.inj (cuts.ofSpan?_eq.symm.trans isWord)
  have cursor_stop : line.byteOfColumn column = span.stop := by
    rw [cursor_eq, cuts.stop_eq]
    apply Nat.le_antisymm
    · exact (Text.utf8Length_le_iff_utf16Length_le cursorPrefix stopPrefix).2 stops.ge
    · exact (Text.utf8Length_le_iff_utf16Length_le stopPrefix cursorPrefix).2 stops.le
  rw [Text.wordAmong?, cursor_stop, matched.spanAt?_of_stop member nonempty, Option.bind_some]
  exact cuts.ofSpan?_eq

end MatchesOf

/-! ## Reading from left to right -/

/-- Matches behind the text `before` that has been read. -/
structure MatchesFrom (line before : Text) (spans : List Span) : Prop
    extends MatchesOf line spans where
  behind : ∀ span ∈ spans, before.utf8Length ≤ span.start

namespace MatchesFrom

variable {line before piece after : Text} {spans : List Span}

theorem nil : MatchesFrom line before [] where
  cut := fun _ member => absurd member List.not_mem_nil
  ordered := .nil
  behind := fun _ member => absurd member List.not_mem_nil

theorem skip (skipped : Text) (found : MatchesFrom line (before ++ skipped) spans) :
    MatchesFrom line before spans where
  toMatchesOf := found.toMatchesOf
  behind := by
    intro span member
    have := found.behind span member
    rw [Text.utf8Length_append] at this
    omega

theorem cons {span : Span} (cuts : span.Cuts line before piece after)
    (found : MatchesFrom line (before ++ piece) spans) : MatchesFrom line before (span :: spans) where
  cut := List.forall_mem_cons.2 ⟨⟨before, piece, after, cuts⟩, found.cut⟩
  ordered := by
    refine List.pairwise_cons.2 ⟨fun later member => ?_, found.ordered⟩
    rw [cuts.stop_eq]
    exact found.behind later member
  behind := List.forall_mem_cons.2
    ⟨Nat.le_of_eq cuts.start_eq.symm, (found.skip piece).behind⟩

theorem consEmpty (line_eq : line = before ++ after) (found : MatchesFrom line before spans) :
    MatchesFrom line before
      ({ start := before.utf8Length, stop := before.utf8Length } :: spans) := by
  have cuts : Span.Cuts { start := before.utf8Length, stop := before.utf8Length } line before []
      after := ⟨line_eq, rfl, by simp⟩
  refine .cons cuts ?_
  rwa [List.append_nil]

end MatchesFrom

namespace Pattern

/-! ### Copies of a text -/

section Copies

variable {needle : Text}

theorem literalMatches_copy (nonempty : needle ≠ []) (offset : Nat) (rest : Text) :
    literalMatches needle offset (needle ++ rest) =
      { start := offset, stop := offset + needle.utf8Length } ::
        literalMatches needle (offset + needle.utf8Length) rest := by
  obtain ⟨c, tail, rfl⟩ := List.exists_cons_of_ne_nil nonempty
  rw [List.cons_append, literalMatches, if_pos (by simp)]
  simp

theorem literalMatches_skip {c : Char} {rest : Text} (notHere : ¬ needle <+: c :: rest)
    (offset : Nat) :
    literalMatches needle offset (c :: rest) =
      literalMatches needle (offset + c.utf8Size) rest := by
  rw [literalMatches, if_neg (by rwa [List.isPrefixOf_iff_prefix])]

/-- Induction over a text as the search for copies of another one reads it. -/
@[elab_as_elim]
theorem copyByCopy (nonempty : needle ≠ []) {motive : Text → Prop} (nil : motive [])
    (copy : ∀ rest, motive rest → motive (needle ++ rest))
    (skip : ∀ c rest, ¬ needle <+: c :: rest → motive rest → motive (c :: rest))
    (text : Text) : motive text := by
  match text with
  | [] => exact nil
  | c :: rest =>
    by_cases here : needle <+: c :: rest
    · obtain ⟨after, text_eq⟩ := here
      rw [← text_eq]
      exact copy after (copyByCopy nonempty nil copy skip after)
    · exact skip c rest here (copyByCopy nonempty nil copy skip rest)
termination_by text.length
decreasing_by
  · have positive := List.length_pos_iff.2 nonempty
    have length_eq := congrArg List.length text_eq
    rw [List.length_append] at length_eq
    omega
  · simp

theorem matchesFrom_literalMatches (nonempty : needle ≠ []) (before text : Text) :
    MatchesFrom (before ++ text) before (literalMatches needle before.utf8Length text) := by
  induction text using copyByCopy nonempty generalizing before with
  | nil =>
    rw [literalMatches]
    exact .nil
  | copy rest ih =>
    rw [literalMatches_copy nonempty, ← Text.utf8Length_append]
    refine .cons ⟨rfl, rfl, rfl⟩ ?_
    simpa using ih (before ++ needle)
  | skip c rest notHere ih =>
    rw [literalMatches_skip notHere]
    refine .skip [c] ?_
    simpa using ih (before ++ [c])

end Copies

theorem matchesFrom_emptyMatches (before text : Text) :
    MatchesFrom (before ++ text) before (emptyMatches before.utf8Length text) := by
  induction text generalizing before with
  | nil => exact .consEmpty rfl .nil
  | cons c rest ih =>
    refine .consEmpty rfl (.skip [c] ?_)
    simpa using ih (before ++ [c])

/-! ### Runs of a class -/

section Runs

variable {member : Char → Bool} (repetition : Repetition) (touching : Bool)

/-- The empty match between two characters, where the repetition allows one. -/
def emptyMatch? (offset : Nat) : List Span :=
  if repetition = .zeroOrMore && !touching then [{ start := offset, stop := offset }] else []

theorem runMatches_nil (offset : Nat) :
    runMatches member repetition touching offset [] = emptyMatch? repetition touching offset := by
  rw [runMatches, emptyMatch?]

theorem runMatches_skip {c : Char} (notMember : member c = false) (offset : Nat) (rest : Text) :
    runMatches member repetition touching offset (c :: rest) =
      emptyMatch? repetition touching offset ++
        runMatches member repetition false (offset + c.utf8Size) rest := by
  rw [runMatches, if_neg (by simp [notMember]), emptyMatch?]

theorem runMatches_run {run rest : Text} (nonempty : run ≠ [])
    (inside : ∀ c ∈ run, member c = true) (rightEnd : ∀ c ∈ rest.head?, member c = false)
    (offset : Nat) :
    runMatches member repetition touching offset (run ++ rest) =
      { start := offset, stop := offset + run.utf8Length } ::
        runMatches member repetition true (offset + run.utf8Length) rest := by
  obtain ⟨c, tail, rfl⟩ := List.exists_cons_of_ne_nil nonempty
  obtain ⟨isMember, tailInside⟩ := List.forall_mem_cons.1 inside
  rw [List.cons_append, runMatches, if_pos isMember]
  simp only [takeWhile_append_of_head? tailInside rightEnd,
    dropWhile_append_of_head? tailInside rightEnd]

/-- Induction over a text as the search for runs reads it. -/
@[elab_as_elim]
theorem runByRun (member : Char → Bool) {motive : Text → Prop} (nil : motive [])
    (run : ∀ run rest, run ≠ [] → (∀ c ∈ run, member c = true) →
      (∀ c ∈ rest.head?, member c = false) → motive rest → motive (run ++ rest))
    (skip : ∀ c rest, member c = false → motive rest → motive (c :: rest))
    (text : Text) : motive text := by
  match text with
  | [] => exact nil
  | c :: rest =>
    cases isMember : member c with
    | true =>
      have parts : c :: rest = (c :: rest.takeWhile member) ++ rest.dropWhile member := by
        rw [List.cons_append, List.takeWhile_append_dropWhile]
      rw [parts]
      refine run _ _ (List.cons_ne_nil _ _) ?_ (fun d first => head?_dropWhile_of_mem first)
        (runByRun member nil run skip (rest.dropWhile member))
      exact List.forall_mem_cons.2 ⟨isMember, List.all_eq_true.1 List.all_takeWhile⟩
    | false => exact skip c rest isMember (runByRun member nil run skip rest)
termination_by text.length
decreasing_by
  · exact Nat.lt_succ_self _
  · exact Nat.lt_succ_of_le (List.dropWhile_sublist member).length_le

theorem matchesFrom_emptyMatch?_append {line before after : Text} {spans : List Span}
    (line_eq : line = before ++ after) (found : MatchesFrom line before spans) :
    MatchesFrom line before (emptyMatch? repetition touching before.utf8Length ++ spans) := by
  unfold emptyMatch?
  split
  · exact .consEmpty line_eq found
  · exact found

theorem matchesFrom_runMatches (before text : Text) :
    MatchesFrom (before ++ text) before
      (runMatches member repetition touching before.utf8Length text) := by
  induction text using runByRun member generalizing before touching with
  | nil =>
    rw [runMatches_nil, ← List.append_nil (emptyMatch? _ _ _)]
    exact matchesFrom_emptyMatch?_append repetition touching rfl .nil
  | run run rest nonempty inside rightEnd ih =>
    rw [runMatches_run repetition touching nonempty inside rightEnd, ← Text.utf8Length_append]
    refine .cons ⟨rfl, rfl, rfl⟩ ?_
    simpa using ih true (before ++ run)
  | skip c rest notMember ih =>
    rw [runMatches_skip repetition touching notMember]
    refine matchesFrom_emptyMatch?_append repetition touching rfl (.skip [c] ?_)
    simpa using ih false (before ++ [c])

end Runs

theorem matchesOf_spans (pattern : Pattern) (line : Text) : MatchesOf line (pattern.spans line) := by
  match pattern with
  | .literal [] => exact (matchesFrom_emptyMatches [] line).toMatchesOf
  | .literal (c :: rest) =>
    exact (matchesFrom_literalMatches (List.cons_ne_nil c rest) [] line).toMatchesOf
  | .run member repetition => exact (matchesFrom_runMatches repetition false [] line).toMatchesOf

end Pattern

/-! ## The match at a column -/

namespace Text

/-- What a search for a match at a column finds, for any spans that are matches of a pattern: the
first word of the whole line that is not empty and holds the column, once that is brought back
to the line and out of the middle of a character.  A match that ends there comes first, so that
of two that touch at the column the left one is found. -/
theorem wordAmong?_first_holding (line : Text) (column : Nat) :
    ∃ snapped, line.columnOfByte? (line.byteOfColumn column) = some snapped ∧
      (line.InsidePair column → snapped = column + 1) ∧
      (¬ line.InsidePair column → snapped = min column line.utf16Length) ∧
      (∀ pattern : Pattern, MatchesOf line (pattern.spans line)) ∧
      ∀ spans, MatchesOf line spans →
        line.wordAmong? column spans =
          ((spans.filter fun span => span.start != span.stop).filterMap (Word.ofSpan? line)).find?
            (fun word => word.start ≤ snapped && snapped ≤ word.stop) ∧
        (line.wordAmong? column spans = none ↔
          ∀ span ∈ spans, span.start ≠ span.stop →
            ∃ word, Word.ofSpan? line span = some word ∧
              ¬ (word.start ≤ snapped ∧ snapped ≤ word.stop)) ∧
        ∀ span ∈ spans, span.start ≠ span.stop →
          ∀ word, Word.ofSpan? line span = some word → word.stop = snapped →
            line.wordAmong? column spans = some word := by
  obtain ⟨before, after, rfl, cursor_eq, fallsAt⟩ := line.exists_cursor column
  have cursorPrefix : before <+: before ++ after := List.prefix_append before after
  have snappedAt : ((before ++ after).InsidePair column → before.utf16Length = column + 1) ∧
      (¬ (before ++ after).InsidePair column →
        before.utf16Length = min column (before ++ after).utf16Length) := by
    rcases fallsAt with between | ⟨lead, c, rfl, isPair, column_eq⟩
    · refine ⟨fun inside => ?_, fun _ => between⟩
      rw [Nat.min_eq_left (Nat.le_of_lt inside.lt_utf16Length)] at between
      have outside := not_insidePair_of_prefix cursorPrefix
      exact absurd (between ▸ inside) outside
    · have inside : (lead ++ [c] ++ after).InsidePair column :=
        ⟨lead, c, after, by simp, isPair, column_eq⟩
      exact ⟨fun _ => by simp [isPair, column_eq], fun outside => absurd inside outside⟩
  refine ⟨before.utf16Length, ?_, snappedAt.1, snappedAt.2,
    fun pattern => pattern.matchesOf_spans _, ?_⟩
  · rw [cursor_eq, columnOfByte?_utf8Length]
  intro spans matched
  refine ⟨matched.wordAmong?_eq_find? cursorPrefix cursor_eq, ?_, ?_⟩
  · rw [matched.wordAmong?_eq_none_iff cursorPrefix cursor_eq]
    simp only [Bool.eq_false_iff, ne_eq, Word.holds_iff]
  · intro span member nonempty word isWord stops
    exact matched.wordAmong?_of_stop cursorPrefix cursor_eq member nonempty isWord stops

/-- Inside the first of two characters that both match, the column moves on to the place where
the two matches touch. -/
theorem wordAmong?_first_holding_inside_pair :
    let line : Text := ['𝔸', '𝔸']
    let spans := (Pattern.literal ['𝔸']).spans line
    spans = [⟨0, 4⟩, ⟨4, 8⟩] ∧ MatchesOf line spans ∧
      line.columnOfByte? (line.byteOfColumn 1) = some 2 ∧
      line.wordAmong? 1 spans = some { text := ['𝔸'], start := 0, stop := 2 } := by
  intro line spans
  have spans_eq : spans = [⟨0, 4⟩, ⟨4, 8⟩] := by decide +kernel
  have column_eq : line.columnOfByte? (line.byteOfColumn 1) = some 2 := by decide +kernel
  obtain ⟨snapped, snapped_eq, -, -, isMatched, searched⟩ := wordAmong?_first_holding line 1
  obtain rfl : 2 = snapped := Option.some.inj (column_eq.symm.trans snapped_eq)
  have matched : MatchesOf line spans := isMatched (.literal ['𝔸'])
  refine ⟨spans_eq, matched, column_eq, ?_⟩
  exact (searched spans matched).2.2 ⟨0, 4⟩ (by simp [spans_eq]) (by decide) _
    (by decide +kernel) rfl

end Text

end GotoDefinition
