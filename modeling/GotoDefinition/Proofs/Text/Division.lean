import GotoDefinition.Proofs.Text.Line

/-!
# The lines of a document

A document divides into lines in exactly one way: lines without a terminator, and one of the
three breaks between each two of them.  What makes the division unique is that a carriage return
ahead of a line feed may not stand alone.  `lineAt` numbers the lines of this division.
-/

namespace GotoDefinition.Text

/-! ## Divisions -/

/-- The first line and then each further line behind the break ahead of it. -/
def writeLines : Text → List (Text × Text) → Text
  | first, [] => first
  | first, (mark, line) :: later => first ++ (mark ++ writeLines line later)

/-- A document is written as a first line and, behind breaks, further lines.  A carriage return
is no break of its own ahead of a line feed. -/
structure Division (content first : Text) (later : List (Text × Text)) : Prop where
  content_eq : content = writeLines first later
  unbroken : ∀ line ∈ first :: later.map Prod.snd, OnOneLine line
  breaks : ∀ mark ∈ later.map Prod.fst, mark ∈ [['\n'], ['\r', '\n'], ['\r']]
  whole : ∀ earlier line behind, later = earlier ++ (['\r'], line) :: behind →
    (writeLines line behind).head? ≠ some '\n'

theorem lineBreak_iff (mark rest : Text) :
    LineBreak mark rest ↔
      mark ∈ [['\n'], ['\r', '\n'], ['\r']] ∧ (mark = ['\r'] → rest.head? ≠ some '\n') := by
  constructor
  · intro isBreak
    cases isBreak with
    | lineFeed => simp
    | both => simp
    | carriageReturn alone => simp [alone]
  · rintro ⟨isMark, alone⟩
    simp only [List.mem_cons, List.not_mem_nil, or_false] at isMark
    rcases isMark with rfl | rfl | rfl
    · exact .lineFeed rest
    · exact .both rest
    · exact .carriageReturn (alone rfl)

theorem division_nil_iff (content first : Text) :
    Division content first [] ↔ content = first ∧ OnOneLine first := by
  constructor
  · intro divided
    exact ⟨divided.content_eq, divided.unbroken first List.mem_cons_self⟩
  · rintro ⟨rfl, unbroken⟩
    refine ⟨rfl, by simpa using unbroken, by simp, by simp⟩

/-- A division goes on behind the first break as a division of the rest. -/
theorem division_cons_iff (content first mark line : Text) (later : List (Text × Text)) :
    Division content first ((mark, line) :: later) ↔
      ∃ rest, content = first ++ (mark ++ rest) ∧ OnOneLine first ∧ LineBreak mark rest ∧
        Division rest line later := by
  constructor
  · rintro ⟨content_eq, unbroken, breaks, whole⟩
    obtain ⟨firstUnbroken, laterUnbroken⟩ := List.forall_mem_cons.1 unbroken
    obtain ⟨isMark, laterMarks⟩ := List.forall_mem_cons.1 breaks
    refine ⟨writeLines line later, content_eq, firstUnbroken, ?_, rfl, laterUnbroken, laterMarks,
      ?_⟩
    · refine (lineBreak_iff _ _).2 ⟨isMark, ?_⟩
      rintro rfl
      exact whole [] line later rfl
    · intro earlier other behind split
      exact whole ((mark, line) :: earlier) other behind (by rw [split, List.cons_append])
  · rintro ⟨rest, rfl, firstUnbroken, isBreak, rfl, unbroken, breaks, whole⟩
    obtain ⟨isMark, alone⟩ := (lineBreak_iff _ _).1 isBreak
    refine ⟨rfl, List.forall_mem_cons.2 ⟨firstUnbroken, unbroken⟩,
      List.forall_mem_cons.2 ⟨isMark, breaks⟩, ?_⟩
    intro earlier other behind split
    cases earlier with
    | nil =>
      obtain ⟨⟨rfl, rfl⟩, rfl⟩ : (mark = ['\r'] ∧ line = other) ∧ later = behind := by
        simpa using split
      exact alone rfl
    | cons entry earlier => exact whole earlier other behind (List.cons.inj split).2

theorem exists_division (content : Text) : ∃ first later, Division content first later := by
  induction content using lineByLine with
  | lastLine line unbroken => exact ⟨line, [], (division_nil_iff _ _).2 ⟨rfl, unbroken⟩⟩
  | nextLine line mark rest unbroken isBreak ih =>
    obtain ⟨second, later, divided⟩ := ih
    exact ⟨line, (mark, second) :: later,
      (division_cons_iff ..).2 ⟨rest, rfl, unbroken, isBreak, divided⟩⟩

/-! ## The first line -/

/-- Neither the first line nor the break behind it can be chosen. -/
theorem nextLine_unique {line mark rest otherLine otherMark otherRest : Text}
    (unbroken : OnOneLine line) (isBreak : LineBreak mark rest)
    (otherUnbroken : OnOneLine otherLine) (isOtherBreak : LineBreak otherMark otherRest)
    (same : line ++ (mark ++ rest) = otherLine ++ (otherMark ++ otherRest)) :
    line = otherLine ∧ mark = otherMark ∧ rest = otherRest := by
  have lineFound := lineAt_zero_nextLine unbroken isBreak
  rw [same, lineAt_zero_nextLine otherUnbroken isOtherBreak] at lineFound
  obtain rfl := Option.some.inj lineFound
  have parts := List.append_cancel_left same
  have restFound := afterLine?_lineBreak isBreak
  rw [parts, afterLine?_lineBreak isOtherBreak] at restFound
  obtain rfl := Option.some.inj restFound
  exact ⟨rfl, List.append_cancel_right parts, rfl⟩

namespace Division

variable {content first : Text} {later : List (Text × Text)}

theorem breakCount_eq (divided : Division content first later) :
    content.breakCount = later.length := by
  induction later generalizing content first with
  | nil =>
    obtain ⟨rfl, unbroken⟩ := (division_nil_iff _ _).1 divided
    exact breakCount_of_onOneLine unbroken
  | cons entry later ih =>
    obtain ⟨rest, rfl, unbroken, isBreak, restDivided⟩ := (division_cons_iff ..).1 divided
    rw [breakCount_append_of_onOneLine unbroken, breakCount_lineBreak isBreak, ih restDivided,
      List.length_cons]

theorem unique (divided : Division content first later) {otherFirst : Text}
    {otherLater : List (Text × Text)} (otherDivided : Division content otherFirst otherLater) :
    otherFirst = first ∧ otherLater = later := by
  have lengths : otherLater.length = later.length :=
    otherDivided.breakCount_eq.symm.trans divided.breakCount_eq
  induction later generalizing content first otherFirst otherLater with
  | nil =>
    obtain rfl := List.length_eq_zero_iff.1 lengths
    exact ⟨otherDivided.content_eq.symm.trans divided.content_eq, rfl⟩
  | cons entry later ih =>
    obtain ⟨otherEntry, otherLater, rfl⟩ := List.exists_cons_of_length_eq_add_one lengths
    obtain ⟨rest, rfl, unbroken, isBreak, restDivided⟩ := (division_cons_iff ..).1 divided
    obtain ⟨otherRest, same, otherUnbroken, isOtherBreak, otherRestDivided⟩ :=
      (division_cons_iff ..).1 otherDivided
    obtain ⟨rfl, markSame, rfl⟩ := nextLine_unique unbroken isBreak otherUnbroken isOtherBreak same
    obtain ⟨lineSame, rfl⟩ := ih restDivided otherRestDivided (Nat.succ_inj.1 lengths)
    exact ⟨rfl, by rw [Prod.ext markSame lineSame.symm]⟩

theorem lineAt_eq (divided : Division content first later) (n : Nat) :
    content.lineAt n = (first :: later.map Prod.snd)[n]? := by
  induction later generalizing content first n with
  | nil =>
    obtain ⟨rfl, unbroken⟩ := (division_nil_iff _ _).1 divided
    cases n with
    | zero => exact lineAt_zero_of_onOneLine unbroken
    | succ n => exact lineAt_succ_of_onOneLine unbroken n
  | cons entry later ih =>
    obtain ⟨rest, rfl, unbroken, isBreak, restDivided⟩ := (division_cons_iff ..).1 divided
    cases n with
    | zero => exact lineAt_zero_nextLine unbroken isBreak
    | succ n => rw [lineAt_nextLine unbroken isBreak, ih restDivided]; rfl

end Division

/-- Behind a terminator at the end of a document there is an empty line. -/
theorem lineAt_of_getLast? {content : Text} {c : Char} (last : c ∈ content.getLast?)
    (isEnd : isTerminator c = true) : content.lineAt content.breakCount = some [] := by
  obtain ⟨front, rfl⟩ := List.getLast?_eq_some_iff.1 last
  have notSplit : ¬ SplitsBreak (front ++ [c]) [] := fun splits => by simpa using splits.2
  have found := lineAt_breakCount notSplit
  rw [lastLine_append_terminator front isEnd, List.append_nil] at found
  exact found

/-! ## Numbered lines -/

/-- A document divides into lines in exactly one way, and the lines of the division are those that
have a number, from zero on.  If the document ends in a terminator, the last of them is empty. -/
theorem lineAt_numbers_division (content : Text) :
    ∃ first later, Division content first later ∧
      (∀ otherFirst otherLater, Division content otherFirst otherLater →
        otherFirst = first ∧ otherLater = later) ∧
      (∀ n, content.lineAt n = (first :: later.map Prod.snd)[n]?) ∧
      ∀ c ∈ content.getLast?, isTerminator c = true →
        content.lineAt later.length = some [] ∧ content.lineAt (later.length + 1) = none := by
  obtain ⟨first, later, divided⟩ := exists_division content
  refine ⟨first, later, divided, fun _ _ => divided.unique, divided.lineAt_eq, ?_⟩
  intro c last isEnd
  constructor
  · rw [← divided.breakCount_eq]
    exact lineAt_of_getLast? last isEnd
  · rw [divided.lineAt_eq]
    simp

/-- A carriage return alone, one ahead of a line feed, a line feed, and a carriage return at the
end. -/
theorem lineAt_numbers_division_mixed :
    let content : Text := ['a', '\r', '\r', '\n', '\n', 'b', '\r']
    let later : List (Text × Text) :=
      [(['\r'], []), (['\r', '\n'], []), (['\n'], ['b']), (['\r'], [])]
    Division content ['a'] later ∧
      (∀ n, content.lineAt n = [['a'], [], [], ['b'], []][n]?) ∧
      content.lineAt 4 = some [] ∧ content.lineAt 5 = none := by
  intro content later
  have divided : Division content ['a'] later := by
    refine (division_cons_iff ..).2 ⟨_, rfl, by decide, .carriageReturn (by decide), ?_⟩
    refine (division_cons_iff ..).2 ⟨_, rfl, by decide, .both _, ?_⟩
    refine (division_cons_iff ..).2 ⟨_, rfl, by decide, .lineFeed _, ?_⟩
    refine (division_cons_iff ..).2 ⟨_, rfl, by decide, .carriageReturn (by decide), ?_⟩
    exact (division_nil_iff ..).2 ⟨rfl, by decide⟩
  obtain ⟨first, others, -, unique, numbered, ends⟩ := lineAt_numbers_division content
  obtain ⟨rfl, rfl⟩ := unique _ _ divided
  exact ⟨divided, numbered, ends '\r' rfl rfl⟩

end GotoDefinition.Text
