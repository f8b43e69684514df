import GotoDefinition.Proofs.Text.Units
import GotoDefinition.Text.Line

/-!
# Lines and positions

A document is read line by line: it is either one line, or a line, one of the three line
breaks and a shorter document (`lineByLine`).  `lineAt` and `lineStarts` follow this
division although they find it in two different ways, and that is why they agree: where `n`
lines stand ahead, each with its break (`LinesAhead`), the `n`-th line is read and the `n`-th
start is found.

The position of a place in a document is a function of the text before it alone: its
line is the number of breaks in that text and its column the length of what follows the
last of them (`endPosition`).  The one place where this fails is between the two
characters of a carriage return and line feed (`SplitsBreak`).
-/

namespace GotoDefinition

/-- One position comes before another: on an earlier line, or further left on the same. -/
def Position.Precedes (position later : Position) : Prop :=
  position.line < later.line ∨
    position.line = later.line ∧ position.character < later.character

namespace Text

/-! ## Breaks -/

/-- Nothing in the text ends a line. -/
def OnOneLine (text : Text) : Prop :=
  ∀ c ∈ text, isTerminator c = false

instance (text : Text) : Decidable (OnOneLine text) :=
  decidable_of_iff (text.all (!isTerminator ·) = true) (by simp [OnOneLine])

/-- A line break and the text that follows it.  A carriage return is a break of its own
only if no line feed follows. -/
inductive LineBreak : Text → Text → Prop where
  | lineFeed (rest : Text) : LineBreak ['\n'] rest
  | both (rest : Text) : LineBreak ['\r', '\n'] rest
  | carriageReturn {rest : Text} (alone : rest.head? ≠ some '\n') : LineBreak ['\r'] rest

theorem OnOneLine.tail {c : Char} {rest : Text} (unbroken : OnOneLine (c :: rest)) :
    OnOneLine rest :=
  fun d member => unbroken d (List.mem_cons_of_mem c member)

theorem OnOneLine.head {c : Char} {rest : Text} (unbroken : OnOneLine (c :: rest)) :
    isTerminator c = false :=
  unbroken c List.mem_cons_self

theorem isTerminator_eq_true_iff (c : Char) : isTerminator c = true ↔ c = '\n' ∨ c = '\r' := by
  simp [isTerminator]

theorem isTerminator_eq_false_iff (c : Char) : isTerminator c = false ↔ c ≠ '\n' ∧ c ≠ '\r' := by
  simp [isTerminator]

/-- A text that is not one line has a first line break. -/
theorem onOneLine_or_lineBreak (text : Text) :
    OnOneLine text ∨ ∃ line mark rest, text = line ++ (mark ++ rest) ∧ OnOneLine line ∧
      LineBreak mark rest := by
  induction text with
  | nil => exact .inl fun c member => absurd member List.not_mem_nil
  | cons c rest ih =>
    cases isEnd : isTerminator c with
    | true =>
      right
      have emptyLine : OnOneLine [] := fun d member => absurd member List.not_mem_nil
      rcases (isTerminator_eq_true_iff c).1 isEnd with rfl | rfl
      · exact ⟨[], ['\n'], rest, rfl, emptyLine, .lineFeed rest⟩
      -- A carriage return takes a line feed behind it along.
      · by_cases paired : rest.head? = some '\n'
        · obtain ⟨after, rfl⟩ := List.head?_eq_some_iff.1 paired
          exact ⟨[], ['\r', '\n'], after, rfl, emptyLine, .both after⟩
        · exact ⟨[], ['\r'], rest, rfl, emptyLine, .carriageReturn paired⟩
    | false =>
      rcases ih with unbroken | ⟨line, mark, after, rfl, unbroken, isBreak⟩
      · exact .inl (List.forall_mem_cons.2 ⟨isEnd, unbroken⟩)
      · exact .inr ⟨c :: line, mark, after, rfl, List.forall_mem_cons.2 ⟨isEnd, unbroken⟩, isBreak⟩

theorem LineBreak.length_pos {mark rest : Text} (isBreak : LineBreak mark rest) :
    0 < mark.length := by
  cases isBreak <;> simp

/-- Induction over the lines of a text. -/
@[elab_as_elim]
theorem lineByLine {motive : Text → Prop}
    (lastLine : ∀ line, OnOneLine line → motive line)
    (nextLine : ∀ line mark rest, OnOneLine line → LineBreak mark rest → motive rest →
      motive (line ++ (mark ++ rest)))
    (text : Text) : motive text := by
  rcases onOneLine_or_lineBreak text with unbroken | ⟨line, mark, rest, rfl, unbroken, isBreak⟩
  · exact lastLine text unbroken
  · exact nextLine line mark rest unbroken isBreak (lineByLine lastLine nextLine rest)
termination_by text.length
decreasing_by
  -- The line may be empty, so it is the break that makes the rest shorter.
  have := isBreak.length_pos
  subst_vars
  simp only [List.length_append]
  omega

/-! ## The end of a text as a position -/

/-- The number of line breaks in a text. -/
def breakCount : Text → Nat
  | [] => 0
  | '\r' :: '\n' :: rest => breakCount rest + 1
  | c :: rest => if isTerminator c then breakCount rest + 1 else breakCount rest

/-- What follows the last line break of a text. -/
def lastLine (text : Text) : Text :=
  text.foldl (fun line c => if isTerminator c then [] else line ++ [c]) []

/-- The position at which a text ends. -/
def endPosition (text : Text) : Position where
  line := text.breakCount
  character := text.lastLine.utf16Length

theorem breakCount_append_of_onOneLine {line : Text} (unbroken : OnOneLine line) (rest : Text) :
    breakCount (line ++ rest) = breakCount rest := by
  induction line with
  | nil => rfl
  | cons c line ih =>
    have notEnd := unbroken.head
    have notReturn := ((isTerminator_eq_false_iff c).1 notEnd).2
    rw [List.cons_append, breakCount, if_neg (by simp [notEnd]), ih unbroken.tail]
    intro after isReturn
    exact absurd isReturn notReturn

theorem breakCount_of_onOneLine {line : Text} (unbroken : OnOneLine line) : breakCount line = 0 := by
  simpa [breakCount] using breakCount_append_of_onOneLine unbroken []

theorem breakCount_lineBreak {mark rest : Text} (isBreak : LineBreak mark rest) :
    breakCount (mark ++ rest) = breakCount rest + 1 := by
  cases isBreak with
  | lineFeed => simp [breakCount, isTerminator]
  | both => simp [breakCount]
  | carriageReturn alone =>
    rw [List.singleton_append, breakCount, if_pos (by decide)]
    rintro after - rfl
    exact alone rfl

theorem lastLine_append (before after : Text) :
    lastLine (before ++ after) =
      after.foldl (fun line c => if isTerminator c then [] else line ++ [c]) before.lastLine := by
  rw [lastLine, List.foldl_append]
  rfl

theorem lastLine_append_of_onOneLine (before : Text) {line : Text} (unbroken : OnOneLine line) :
    lastLine (before ++ line) = lastLine before ++ line := by
  induction line generalizing before with
  | nil => simp
  | cons c line ih =>
    have shifted : before ++ c :: line = (before ++ [c]) ++ line := by simp
    rw [shifted, ih _ unbroken.tail, lastLine_append]
    simp [unbroken.head]

theorem lastLine_of_onOneLine {line : Text} (unbroken : OnOneLine line) : lastLine line = line :=
  lastLine_append_of_onOneLine [] unbroken

theorem lastLine_append_terminator (before : Text) {c : Char} (isEnd : isTerminator c = true)
    (rest : Text) : lastLine (before ++ c :: rest) = lastLine rest := by
  rw [lastLine_append, List.foldl_cons, if_pos isEnd, lastLine]

theorem lastLine_lineBreak (line : Text) {mark rest : Text} (isBreak : LineBreak mark rest) :
    lastLine (line ++ (mark ++ rest)) = lastLine rest := by
  cases isBreak with
  | lineFeed => exact lastLine_append_terminator line (by decide) rest
  | both =>
    -- Of the two characters the second one is the terminator that counts.
    have shifted : line ++ (['\r', '\n'] ++ rest) = (line ++ ['\r']) ++ '\n' :: rest := by simp
    rw [shifted, lastLine_append_terminator _ (by decide)]
  | carriageReturn => exact lastLine_append_terminator line (by decide) rest

theorem onOneLine_lastLine (text : Text) : OnOneLine text.lastLine := by
  induction text using lineByLine with
  | lastLine line unbroken => rwa [lastLine_of_onOneLine unbroken]
  | nextLine line mark rest unbroken isBreak ih => rwa [lastLine_lineBreak line isBreak]

theorem lastLine_suffix (text : Text) : lastLine text <:+ text := by
  induction text using lineByLine with
  | lastLine line unbroken => exact ⟨[], lastLine_of_onOneLine unbroken⟩
  | nextLine line mark rest unbroken isBreak ih =>
    rw [lastLine_lineBreak line isBreak, ← List.append_assoc]
    exact ih.trans (List.suffix_append (line ++ mark) rest)

/-! ## Places that are no break's middle -/

/-- The place between two texts is the middle of a carriage return and line feed. -/
def SplitsBreak (before after : Text) : Prop :=
  before.getLast? = some '\r' ∧ after.head? = some '\n'

/-- A break stays one when the text behind it goes on, unless the break is completed there. -/
theorem LineBreak.append {line mark rest after : Text} (isBreak : LineBreak mark rest)
    (whole : ¬ SplitsBreak (line ++ (mark ++ rest)) after) : LineBreak mark (rest ++ after) := by
  cases isBreak with
  | lineFeed => exact .lineFeed _
  | both => exact .both _
  | carriageReturn alone =>
    refine .carriageReturn ?_
    cases rest with
    | nil =>
      intro feed
      exact whole ⟨by simp, feed⟩
    | cons c rest => exact alone

theorem not_splitsBreak_rest {line mark rest after : Text}
    (whole : ¬ SplitsBreak (line ++ (mark ++ rest)) after) : ¬ SplitsBreak rest after := by
  rintro ⟨isReturn, feed⟩
  refine whole ⟨?_, feed⟩
  rw [List.getLast?_append, List.getLast?_append, isReturn]
  rfl

/-- Breaks add up where no break is split. -/
theorem breakCount_append {before after : Text} (whole : ¬ SplitsBreak before after) :
    breakCount (before ++ after) = breakCount before + breakCount after := by
  induction before using lineByLine with
  | lastLine line unbroken =>
    rw [breakCount_append_of_onOneLine unbroken, breakCount_of_onOneLine unbroken, Nat.zero_add]
  | nextLine line mark rest unbroken isBreak ih =>
    rw [List.append_assoc, List.append_assoc, breakCount_append_of_onOneLine unbroken,
      breakCount_append_of_onOneLine unbroken, breakCount_lineBreak (isBreak.append whole),
      breakCount_lineBreak isBreak, ih (not_splitsBreak_rest whole)]
    omega

/-! ## `lineAt` -/

theorem takeWhile_append_of_onOneLine {line : Text} (unbroken : OnOneLine line) (rest : Text) :
    (line ++ rest).takeWhile (fun c => !isTerminator c) =
      line ++ rest.takeWhile (fun c => !isTerminator c) :=
  List.takeWhile_append_of_pos fun c member => by simp [unbroken c member]

theorem afterLine?_append_of_onOneLine {line : Text} (unbroken : OnOneLine line) (rest : Text) :
    afterLine? (line ++ rest) = afterLine? rest := by
  induction line with
  | nil => rfl
  | cons c line ih =>
    have notEnd := unbroken.head
    have notReturn := ((isTerminator_eq_false_iff c).1 notEnd).2
    rw [List.cons_append, afterLine?, if_neg (by simp [notEnd]), ih unbroken.tail]
    intro after isReturn
    exact absurd isReturn notReturn

theorem afterLine?_lineBreak {mark rest : Text} (isBreak : LineBreak mark rest) :
    afterLine? (mark ++ rest) = some rest := by
  cases isBreak with
  | lineFeed => simp [afterLine?, isTerminator]
  | both => simp [afterLine?]
  | carriageReturn alone =>
    rw [List.singleton_append, afterLine?, if_pos (by decide)]
    rintro after - rfl
    exact alone rfl

theorem lineAt_zero_of_onOneLine {line : Text} (unbroken : OnOneLine line) :
    lineAt line 0 = some line := by
  simpa [lineAt] using takeWhile_append_of_onOneLine unbroken []

theorem lineAt_succ_of_onOneLine {line : Text} (unbroken : OnOneLine line) (n : Nat) :
    lineAt line (n + 1) = none := by
  have nothingBehind := afterLine?_append_of_onOneLine unbroken []
  rw [List.append_nil] at nothingBehind
  rw [lineAt, nothingBehind, afterLine?, Option.bind_none]

theorem lineAt_zero_nextLine {line mark rest : Text} (unbroken : OnOneLine line)
    (isBreak : LineBreak mark rest) : lineAt (line ++ (mark ++ rest)) 0 = some line := by
  have ends : (mark ++ rest).takeWhile (fun c => !isTerminator c) = [] := by
    cases isBreak <;> simp [isTerminator]
  rw [lineAt, takeWhile_append_of_onOneLine unbroken, ends, List.append_nil]

theorem lineAt_nextLine {line mark rest : Text} (unbroken : OnOneLine line)
    (isBreak : LineBreak mark rest) (n : Nat) :
    lineAt (line ++ (mark ++ rest)) (n + 1) = lineAt rest n := by
  rw [lineAt, afterLine?_append_of_onOneLine unbroken, afterLine?_lineBreak isBreak,
    Option.bind_some]

/-! ## `lineStarts` -/

theorem lineStartsFrom_append_of_onOneLine {line : Text} (unbroken : OnOneLine line)
    (offset : Nat) (rest : Text) :
    lineStartsFrom offset (line ++ rest) = lineStartsFrom (offset + line.utf8Length) rest := by
  induction line generalizing offset with
  | nil => rfl
  | cons c line ih =>
    obtain ⟨notFeed, notReturn⟩ := (isTerminator_eq_false_iff c).1 unbroken.head
    rw [List.cons_append, lineStartsFrom, if_neg (by simp [notFeed, notReturn]),
      ih unbroken.tail, utf8Length_cons, Nat.add_assoc]

theorem lineStartsFrom_lineBreak {mark rest : Text} (isBreak : LineBreak mark rest)
    (offset : Nat) :
    lineStartsFrom offset (mark ++ rest) =
      (offset + mark.utf8Length) :: lineStartsFrom (offset + mark.utf8Length) rest := by
  cases isBreak with
  | lineFeed => simp [lineStartsFrom]
  | both => simp [lineStartsFrom, Nat.add_assoc]
  | carriageReturn alone => simp [lineStartsFrom, alone]

theorem lineStartsFrom_add (distance offset : Nat) (text : Text) :
    lineStartsFrom (distance + offset) text = (lineStartsFrom offset text).map (distance + ·) := by
  induction text generalizing offset with
  | nil => rfl
  | cons c rest ih =>
    simp only [lineStartsFrom, Nat.add_assoc, ih]
    split <;> simp

theorem lt_of_mem_lineStartsFrom {offset start : Nat} {text : Text}
    (member : start ∈ lineStartsFrom offset text) : offset < start := by
  induction text generalizing offset with
  | nil => exact absurd member List.not_mem_nil
  | cons c rest ih =>
    have positive := c.utf8Size_pos
    simp only [lineStartsFrom] at member
    split at member
    · rcases List.mem_cons.1 member with rfl | later
      · omega
      · have := ih later
        omega
    · have := ih member
      omega

theorem pairwise_lineStartsFrom (offset : Nat) (text : Text) :
    (lineStartsFrom offset text).Pairwise (· < ·) := by
  induction text generalizing offset with
  | nil => exact List.Pairwise.nil
  | cons c rest ih =>
    simp only [lineStartsFrom]
    split
    · exact List.pairwise_cons.2 ⟨fun _ => lt_of_mem_lineStartsFrom, ih _⟩
    · exact ih _

theorem pairwise_lineStarts (content : Text) : content.lineStarts.Pairwise (· < ·) :=
  List.pairwise_cons.2 ⟨fun _ => lt_of_mem_lineStartsFrom, pairwise_lineStartsFrom 0 content⟩

theorem length_lineStartsFrom_le (offset : Nat) (text : Text) :
    (lineStartsFrom offset text).length ≤ text.utf8Length := by
  induction text generalizing offset with
  | nil => exact Nat.le_refl 0
  | cons c rest ih =>
    have positive := c.utf8Size_pos
    have later := ih (offset + c.utf8Size)
    simp only [lineStartsFrom, utf8Length_cons]
    split
    · rw [List.length_cons]
      omega
    · omega

/-- Behind a break the lines of the rest start, all of them moved by the same distance. -/
theorem lineStarts_nextLine {line mark rest : Text} (unbroken : OnOneLine line)
    (isBreak : LineBreak mark rest) :
    lineStarts (line ++ (mark ++ rest)) =
      0 :: (lineStarts rest).map ((line ++ mark).utf8Length + ·) := by
  have moved := lineStartsFrom_add (line ++ mark).utf8Length 0 rest
  rw [lineStarts, lineStartsFrom_append_of_onOneLine unbroken, lineStartsFrom_lineBreak isBreak,
    Nat.zero_add, ← utf8Length_append, lineStarts, List.map_cons, ← moved]
  rfl

/-! ## The text ahead of a line -/

/-- Ahead of `behind` stand `n` lines, each with the break that ends it.  So line number `n` of
the document begins with `behind`. -/
inductive LinesAhead (behind : Text) : Nat → Text → Prop where
  | atFront : LinesAhead behind 0 []
  | next {n : Nat} {line mark ahead : Text} (unbroken : OnOneLine line)
      (isBreak : LineBreak mark (ahead ++ behind)) (others : LinesAhead behind n ahead) :
      LinesAhead behind (n + 1) (line ++ (mark ++ ahead))

namespace LinesAhead

variable {behind ahead : Text} {n : Nat}

/-- The lines of what is left are those from number `n` on. -/
theorem lineAt_add (stand : LinesAhead behind n ahead) (further : Nat) :
    lineAt (ahead ++ behind) (n + further) = lineAt behind further := by
  induction stand with
  | atFront => rw [List.nil_append, Nat.zero_add]
  | next unbroken isBreak others ih =>
    rw [List.append_assoc, List.append_assoc, Nat.add_right_comm,
      lineAt_nextLine unbroken isBreak, ih]

theorem lineAt_eq (stand : LinesAhead behind n ahead) :
    lineAt (ahead ++ behind) n = some (behind.takeWhile fun c => !isTerminator c) :=
  stand.lineAt_add 0

/-- The starts of what is left are those from number `n` on, moved by the text ahead. -/
theorem lineStarts_add (stand : LinesAhead behind n ahead) (further : Nat) :
    (lineStarts (ahead ++ behind))[n + further]? =
      (lineStarts behind)[further]?.map (ahead.utf8Length + ·) := by
  induction stand with
  | atFront => simp
  | next unbroken isBreak others ih =>
    rw [List.append_assoc, List.append_assoc, Nat.add_right_comm,
      lineStarts_nextLine unbroken isBreak, List.getElem?_cons_succ, List.getElem?_map, ih,
      Option.map_map]
    simp only [Function.comp_def, utf8Length_append, Nat.add_assoc]

theorem lineStarts_eq (stand : LinesAhead behind n ahead) :
    (lineStarts (ahead ++ behind))[n]? = some ahead.utf8Length :=
  stand.lineStarts_add 0

end LinesAhead

/-- A number either is that of a line, or it has neither a line nor a start. -/
theorem exists_linesAhead_or_beyond (content : Text) (n : Nat) :
    (∃ ahead behind, content = ahead ++ behind ∧ LinesAhead behind n ahead) ∨
      content.lineAt n = none ∧ content.lineStarts[n]? = none := by
  induction content using lineByLine generalizing n with
  | lastLine line unbroken =>
    cases n with
    | zero => exact .inl ⟨[], line, rfl, .atFront⟩
    | succ n =>
      have noStart := lineStartsFrom_append_of_onOneLine unbroken 0 []
      rw [List.append_nil] at noStart
      right
      refine ⟨lineAt_succ_of_onOneLine unbroken n, ?_⟩
      rw [lineStarts, noStart, List.getElem?_cons_succ]
      rfl
  | nextLine line mark rest unbroken isBreak ih =>
    cases n with
    | zero => exact .inl ⟨[], _, rfl, .atFront⟩
    | succ n =>
      rcases ih n with ⟨ahead, behind, rfl, stand⟩ | ⟨noLine, noStart⟩
      · exact .inl ⟨line ++ (mark ++ ahead), behind, by simp, .next unbroken isBreak stand⟩
      · right
        rw [lineAt_nextLine unbroken isBreak, lineStarts_nextLine unbroken isBreak,
          List.getElem?_cons_succ, List.getElem?_map, noStart]
        exact ⟨noLine, rfl⟩

theorem infix_of_lineAt {content line : Text} {n : Nat} (isLine : content.lineAt n = some line) :
    line <:+: content := by
  rcases content.exists_linesAhead_or_beyond n with ⟨ahead, behind, rfl, stand⟩ | ⟨noLine, -⟩
  · rw [stand.lineAt_eq, Option.some.injEq] at isLine
    rw [← isLine]
    exact (List.takeWhile_prefix _).isInfix.trans (List.suffix_append ahead behind).isInfix
  · rw [noLine] at isLine
    cases isLine

/-- There are as many starts as there are lines. -/
theorem lt_length_lineStarts_iff (content : Text) (n : Nat) :
    n < content.lineStarts.length ↔ ∃ line, content.lineAt n = some line := by
  rcases content.exists_linesAhead_or_beyond n with
    ⟨ahead, behind, rfl, stand⟩ | ⟨noLine, noStart⟩
  · have inRange := (List.getElem?_eq_some_iff.1 stand.lineStarts_eq).1
    exact ⟨fun _ => ⟨_, stand.lineAt_eq⟩, fun _ => inRange⟩
  · have outOfRange := List.getElem?_eq_none_iff.1 noStart
    rw [noLine]
    constructor
    · intro inRange
      omega
    · rintro ⟨line, isLine⟩
      cases isLine

theorem getElem?_lineStarts_eq_some_iff (content : Text) (n start : Nat) :
    content.lineStarts[n]? = some start ↔
      ∃ ahead behind, content = ahead ++ behind ∧ LinesAhead behind n ahead ∧
        start = ahead.utf8Length ∧
        content.lineAt n = some (behind.takeWhile fun c => !isTerminator c) := by
  constructor
  · intro isStart
    rcases content.exists_linesAhead_or_beyond n with
      ⟨ahead, behind, rfl, stand⟩ | ⟨-, noStart⟩
    · rw [stand.lineStarts_eq, Option.some.injEq] at isStart
      exact ⟨ahead, behind, rfl, stand, isStart.symm, stand.lineAt_eq⟩
    · rw [noStart] at isStart
      cases isStart
  · rintro ⟨ahead, behind, rfl, stand, rfl, -⟩
    exact stand.lineStarts_eq

/-- A place stands on the line whose number is how many breaks there are before it. -/
theorem exists_linesAhead_lastLine {before after : Text} (whole : ¬ SplitsBreak before after) :
    ∃ ahead, before = ahead ++ before.lastLine ∧
      LinesAhead (before.lastLine ++ after) before.breakCount ahead := by
  induction before using lineByLine with
  | lastLine line unbroken =>
    rw [lastLine_of_onOneLine unbroken, breakCount_of_onOneLine unbroken]
    exact ⟨[], rfl, .atFront⟩
  | nextLine line mark rest unbroken isBreak ih =>
    obtain ⟨ahead, rest_eq, stand⟩ := ih (not_splitsBreak_rest whole)
    -- The break stays whole in front of all that follows, the text behind the place included.
    have goesOn : LineBreak mark (ahead ++ (rest.lastLine ++ after)) := by
      rw [← List.append_assoc, ← rest_eq]
      exact isBreak.append whole
    rw [lastLine_lineBreak line isBreak, breakCount_append_of_onOneLine unbroken,
      breakCount_lineBreak isBreak]
    refine ⟨line ++ (mark ++ ahead), ?_, .next unbroken goesOn stand⟩
    rw [List.append_assoc, List.append_assoc, ← rest_eq]

/-- The line at the end of a text goes on up to the first terminator behind it. -/
theorem lineAt_breakCount {before after : Text} (whole : ¬ SplitsBreak before after) :
    lineAt (before ++ after) before.breakCount =
      some (before.lastLine ++ after.takeWhile (fun c => !isTerminator c)) := by
  obtain ⟨ahead, before_eq, stand⟩ := exists_linesAhead_lastLine whole
  have found := stand.lineAt_eq
  rwa [← List.append_assoc, ← before_eq,
    takeWhile_append_of_onOneLine before.onOneLine_lastLine] at found

/-! ## `positionAt?` -/

theorem positionAt?_eq_bind (starts : List Nat) (content : Text) (offset : Nat) :
    positionAt? starts content offset =
      starts[(starts.takeWhile (· ≤ offset)).length - 1]?.bind fun start =>
        (content.dropBytes? start).bind fun fromStart =>
          (fromStart.columnOfByte? (offset - start)).map fun character =>
            { line := (starts.takeWhile (· ≤ offset)).length - 1, character } := by
  simp only [positionAt?, Option.bind_eq_bind, Option.pure_def, Option.map_eq_bind,
    Function.comp_def]

theorem positionAt?_of_onOneLine {before : Text} (unbroken : OnOneLine before) (after : Text) :
    positionAt? (before ++ after).lineStarts (before ++ after) before.utf8Length =
      some before.endPosition := by
  have laterStarts : (lineStarts (before ++ after)).takeWhile (· ≤ before.utf8Length) = [0] := by
    rw [lineStarts, lineStartsFrom_append_of_onOneLine unbroken, Nat.zero_add]
    cases starts : lineStartsFrom before.utf8Length after with
    | nil => simp
    | cons start others =>
      have beyond : before.utf8Length < start :=
        lt_of_mem_lineStartsFrom (starts ▸ List.mem_cons_self)
      simp [beyond]
  have column := columnOfByte?_append before after 0
  rw [Nat.add_zero, columnOfByte?_zero, Option.map_some, Nat.add_zero] at column
  rw [positionAt?_eq_bind, laterStarts]
  simp [lineStarts, column, endPosition, breakCount_of_onOneLine unbroken,
    lastLine_of_onOneLine unbroken]

/-- Behind a break a place has the position it has in the rest, one line further down. -/
theorem positionAt?_nextLine {line mark rest : Text} (unbroken : OnOneLine line)
    (isBreak : LineBreak mark rest) (offset : Nat) :
    positionAt? (line ++ (mark ++ rest)).lineStarts (line ++ (mark ++ rest))
        ((line ++ mark).utf8Length + offset) =
      (positionAt? rest.lineStarts rest offset).map fun position =>
        { position with line := position.line + 1 } := by
  -- The first start of the rest is never beyond the place, so the line found there is the
  -- predecessor of a positive number, and one more start is found here.
  obtain ⟨count, count_eq⟩ :
      ∃ count, (rest.lineStarts.takeWhile (· ≤ offset)).length = count + 1 :=
    ⟨((lineStartsFrom 0 rest).takeWhile (· ≤ offset)).length, by simp [lineStarts]⟩
  have moved : ((line ++ (mark ++ rest)).lineStarts.takeWhile
      (· ≤ (line ++ mark).utf8Length + offset)).length = count + 2 := by
    rw [lineStarts_nextLine unbroken isBreak, List.takeWhile_cons_of_pos (by simp),
      List.takeWhile_map, List.length_cons, List.length_map]
    simpa [Function.comp_def] using count_eq
  rw [positionAt?_eq_bind, positionAt?_eq_bind, moved, count_eq,
    lineStarts_nextLine unbroken isBreak]
  simp only [Nat.add_one_sub_one, List.getElem?_cons_succ, List.getElem?_map]
  cases rest.lineStarts[count]? with
  | none => rfl
  | some start =>
    have dropped := dropBytes?_append (line ++ mark) rest start
    rw [List.append_assoc] at dropped
    rw [Option.map_some, Option.bind_some, Option.bind_some, dropped, Option.map_bind,
      Nat.add_sub_add_left]
    congr 1
    funext fromStart
    rw [Function.comp_apply, Option.map_map]
    rfl

/-- A place has the position it has in what is left, so many lines further down. -/
theorem LinesAhead.positionAt?_add {behind ahead : Text} {n : Nat}
    (stand : LinesAhead behind n ahead) (offset : Nat) :
    positionAt? (ahead ++ behind).lineStarts (ahead ++ behind) (ahead.utf8Length + offset) =
      (positionAt? behind.lineStarts behind offset).map fun position =>
        { position with line := n + position.line } := by
  induction stand with
  | atFront => simp
  | @next n line mark ahead unbroken isBreak others ih =>
    have next := positionAt?_nextLine unbroken isBreak (ahead.utf8Length + offset)
    rw [ih, Option.map_map, ← Nat.add_assoc, ← utf8Length_append, List.append_assoc] at next
    rw [List.append_assoc, List.append_assoc, next]
    simp only [Function.comp_def, Nat.add_right_comm n 1]

/-- The position of a place is where the text before it ends. -/
theorem positionAt?_endPosition {before after : Text} (whole : ¬ SplitsBreak before after) :
    positionAt? (before ++ after).lineStarts (before ++ after) before.utf8Length =
      some before.endPosition := by
  obtain ⟨ahead, before_eq, stand⟩ := exists_linesAhead_lastLine whole
  have onLine := positionAt?_of_onOneLine before.onOneLine_lastLine after
  have found := stand.positionAt?_add before.lastLine.utf8Length
  rw [onLine, ← List.append_assoc, ← utf8Length_append, ← before_eq, Option.map_some] at found
  rw [found, endPosition, endPosition, breakCount_of_onOneLine before.onOneLine_lastLine,
    lastLine_of_onOneLine before.onOneLine_lastLine, Nat.add_zero]

/-! ## Ranges -/

/-- Positions follow the order of the places in a text. -/
theorem endPosition_precedes_append {before middle : Text} (nonempty : middle ≠ [])
    (whole : ¬ SplitsBreak before middle) :
    before.endPosition.Precedes (before ++ middle).endPosition := by
  have counts := breakCount_append whole
  rcases onOneLine_or_lineBreak middle with unbroken | ⟨line, mark, rest, rfl, unbroken, isBreak⟩
  · right
    have longer := utf16Length_pos nonempty
    simp only [endPosition, counts, breakCount_of_onOneLine unbroken, Nat.add_zero,
      lastLine_append_of_onOneLine before unbroken, utf16Length_append, true_and]
    omega
  · left
    -- What follows the break in the middle can only add to the line number.
    simp only [endPosition, counts, breakCount_append_of_onOneLine unbroken,
      breakCount_lineBreak isBreak]
    omega

/-- A range lies on one line of a document, and what stands there is the given text. -/
structure Spells (content : Text) (range : Range) (name : Text) : Prop where
  oneLine : range.start.line = range.stop.line
  onLine : ∃ line, content.lineAt range.start.line = some line ∧
    line.slice? (line.byteOfColumn range.start.character)
      (line.byteOfColumn range.stop.character) = some name

theorem not_splitsBreak_of_onOneLine (before after : Text) {middle : Text}
    (unbroken : OnOneLine middle) (nonempty : middle ≠ []) :
    ¬ SplitsBreak before (middle ++ after) ∧ ¬ SplitsBreak (before ++ middle) after := by
  constructor
  · rintro ⟨-, feed⟩
    obtain ⟨c, rest, rfl⟩ := List.exists_cons_of_ne_nil nonempty
    obtain rfl : c = '\n' := by simpa using feed
    exact absurd unbroken.head (by decide)
  · rintro ⟨isReturn, -⟩
    rw [List.getLast?_append, List.getLast?_eq_some_getLast nonempty, Option.some_or,
      Option.some.injEq] at isReturn
    exact absurd (unbroken _ (isReturn ▸ List.getLast_mem nonempty)) (by decide)

theorem endPosition_append_of_onOneLine (before : Text) {middle : Text}
    (unbroken : OnOneLine middle) (nonempty : middle ≠ []) :
    (before ++ middle).endPosition =
      { before.endPosition with
        character := before.endPosition.character + middle.utf16Length } := by
  have whole := (not_splitsBreak_of_onOneLine before [] unbroken nonempty).1
  rw [List.append_nil] at whole
  simp only [endPosition, breakCount_append whole, breakCount_of_onOneLine unbroken, Nat.add_zero,
    lastLine_append_of_onOneLine before unbroken, utf16Length_append]

/-- The line of a piece of a document that lies on one line. -/
theorem lineAt_of_onOneLine (before after : Text) {middle : Text} (unbroken : OnOneLine middle)
    (nonempty : middle ≠ []) :
    lineAt (before ++ (middle ++ after)) before.breakCount =
      some (before.lastLine ++ (middle ++ after.takeWhile fun c => !isTerminator c)) := by
  rw [lineAt_breakCount (not_splitsBreak_of_onOneLine before after unbroken nonempty).1,
    takeWhile_append_of_onOneLine unbroken]

/-- A piece of a document that lies on one line is what its range spells. -/
theorem spells_endPosition (before after : Text) {name : Text} (unbroken : OnOneLine name)
    (nonempty : name ≠ []) :
    Spells (before ++ (name ++ after))
      { start := before.endPosition, stop := (before ++ name).endPosition } name := by
  have stop_eq := endPosition_append_of_onOneLine before unbroken nonempty
  refine ⟨by rw [stop_eq], _, lineAt_of_onOneLine before after unbroken nonempty, ?_⟩
  · have startByte := byteOfColumn_append before.lastLine
      (name ++ after.takeWhile fun c => !isTerminator c) 0
    have stopByte := byteOfColumn_append (before.lastLine ++ name)
      (after.takeWhile fun c => !isTerminator c) 0
    simp only [Nat.add_zero, byteOfColumn_zero, utf16Length_append, utf8Length_append,
      List.append_assoc] at startByte stopByte
    rw [stop_eq]
    simp only [endPosition, startByte, stopByte]
    exact slice?_append _ _ _

end Text

end GotoDefinition
