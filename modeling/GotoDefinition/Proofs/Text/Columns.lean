import GotoDefinition.Proofs.Text.Units
import Mathlib.Data.Set.Basic
import Mathlib.Order.Bounds.Defs
import Mathlib.Order.Monotone.Defs

/-!
# Columns against byte offsets

A line has places: where one of its characters begins, and where it ends.  Each place has a byte
offset and a column, and on the places the two conversions are adjoint (`byteOfColumn_le_iff`):
the offset of a column is not beyond a place exactly if the column is not.  So the offset of a
column is the first place that the column does not lie behind.  A column between two UTF-16 units
goes on to the end of its character, and one past the end has no place and goes back to the end.
-/

namespace GotoDefinition.Text

/-! ## Places of a line -/

/-- A byte offset at which a character of the line begins or the line ends. -/
def IsBoundary (line : Text) (byte : Nat) : Prop :=
  ∃ before : Text, before <+: line ∧ byte = before.utf8Length

/-- The boundaries of a line whose columns are not less than the given one. -/
def boundariesFrom (line : Text) (column : Nat) : Set Nat :=
  {byte | line.IsBoundary byte ∧ ∃ reached ∈ line.columnOfByte? byte, column ≤ reached}

variable {line before : Text} {column byte : Nat}

theorem isBoundary_cons_iff (c : Char) (rest : Text) (offset : Nat) :
    IsBoundary (c :: rest) offset ↔
      offset = 0 ∨ ∃ further, rest.IsBoundary further ∧ offset = c.utf8Size + further := by
  constructor
  · rintro ⟨before, isPrefix, rfl⟩
    rcases List.prefix_cons_iff.1 isPrefix with rfl | ⟨front, rfl, frontPrefix⟩
    · exact .inl rfl
    · exact .inr ⟨utf8Length front, ⟨front, frontPrefix, rfl⟩, rfl⟩
  · rintro (rfl | ⟨further, ⟨front, frontPrefix, rfl⟩, rfl⟩)
    · exact ⟨[], List.nil_prefix, rfl⟩
    · exact ⟨c :: front, (List.prefix_cons_inj c).2 frontPrefix, rfl⟩

theorem utf16Length_le_of_isPrefix (isPrefix : before <+: line) :
    before.utf16Length ≤ line.utf16Length := by
  obtain ⟨after, rfl⟩ := isPrefix
  simp

theorem columnOfByte?_of_isPrefix (isPrefix : before <+: line) :
    line.columnOfByte? before.utf8Length = some before.utf16Length := by
  obtain ⟨after, rfl⟩ := isPrefix
  exact columnOfByte?_utf8Length before after

theorem columnOfByte?_of_utf8Length_le (pastEnd : line.utf8Length ≤ byte) :
    line.columnOfByte? byte = some line.utf16Length := by
  obtain ⟨beyond, rfl⟩ := Nat.exists_eq_add_of_le pastEnd
  simpa [columnOfByte?] using columnOfByte?_append line [] beyond

theorem byteOfColumn_of_utf16Length_le (pastEnd : line.utf16Length ≤ column) :
    line.byteOfColumn column = line.utf8Length := by
  obtain ⟨beyond, rfl⟩ := Nat.exists_eq_add_of_le pastEnd
  simpa [byteOfColumn] using byteOfColumn_append line [] beyond

/-- An offset has a column exactly if it is a place once it is brought back to the line. -/
theorem columnOfByte?_eq_some_iff :
    line.columnOfByte? byte = some column ↔
      ∃ before : Text, before <+: line ∧ min byte line.utf8Length = before.utf8Length ∧
        before.utf16Length = column := by
  constructor
  · intro found
    fun_induction columnOfByte? line byte generalizing column with
    | case1 byte => exact ⟨[], List.nil_prefix, by simp, by simpa using found⟩
    | case2 c rest => exact ⟨[], List.nil_prefix, by simp, by simpa using found⟩
    | case3 => cases found
    | case4 c rest byte whole ih =>
      obtain ⟨further, isFurther, rfl⟩ := Option.map_eq_some_iff.1 found
      obtain ⟨before, isPrefix, offset_eq, rfl⟩ := ih isFurther
      refine ⟨c :: before, (List.prefix_cons_inj c).2 isPrefix, ?_, rfl⟩
      simp only [utf8Length_cons]
      omega
  · rintro ⟨before, isPrefix, offset_eq, rfl⟩
    rcases Nat.le_total byte line.utf8Length with inLine | pastEnd
    · rw [Nat.min_eq_left inLine] at offset_eq
      rw [offset_eq, columnOfByte?_of_isPrefix isPrefix]
    · rw [Nat.min_eq_right pastEnd] at offset_eq
      have units := (utf8Length_le_iff_utf16Length_le List.prefix_rfl isPrefix).1 offset_eq.le
      rw [columnOfByte?_of_utf8Length_le pastEnd,
        Nat.le_antisymm units (utf16Length_le_of_isPrefix isPrefix)]

theorem isBoundary_min_iff :
    line.IsBoundary (min byte line.utf8Length) ↔
      ∃ column, line.columnOfByte? byte = some column := by
  constructor
  · rintro ⟨before, isPrefix, offset_eq⟩
    exact ⟨_, columnOfByte?_eq_some_iff.2 ⟨before, isPrefix, offset_eq, rfl⟩⟩
  · rintro ⟨column, found⟩
    obtain ⟨before, isPrefix, offset_eq, -⟩ := columnOfByte?_eq_some_iff.1 found
    exact ⟨before, isPrefix, offset_eq⟩

/-! ## The offset of a column -/

theorem exists_prefix_byteOfColumn (line : Text) (column : Nat) :
    ∃ before : Text, before <+: line ∧ line.byteOfColumn column = before.utf8Length := by
  obtain ⟨before, after, line_eq, cursor_eq, -⟩ := line.exists_cursor column
  exact ⟨before, ⟨after, line_eq.symm⟩, cursor_eq⟩

/-- The conversions are adjoint on the places of a line. -/
theorem byteOfColumn_le_iff (inLine : column ≤ line.utf16Length) (isPrefix : before <+: line) :
    line.byteOfColumn column ≤ before.utf8Length ↔ column ≤ before.utf16Length := by
  obtain ⟨reached, after, line_eq, cursor_eq, fallsAt⟩ := line.exists_cursor column
  have reachedPrefix : reached <+: line := ⟨after, line_eq.symm⟩
  rw [cursor_eq, utf8Length_le_iff_utf16Length_le reachedPrefix isPrefix]
  rcases fallsAt with between | ⟨lead, c, rfl, isPair, rfl⟩
  · rw [between, Nat.min_eq_left inLine]
  · -- No place has the column between the two units, so the next one is as good.
    have inside : line.InsidePair (lead.utf16Length + 1) :=
      ⟨lead, c, after, by simpa using line_eq, isPair, rfl⟩
    have differ : before.utf16Length ≠ lead.utf16Length + 1 :=
      fun same => not_insidePair_of_prefix isPrefix (same ▸ inside)
    simp only [utf16Length_append, utf16Length_cons, utf16Length_nil, isPair]
    omega

theorem isLeast_byteOfColumn (inLine : column ≤ line.utf16Length) :
    IsLeast (line.boundariesFrom column) (line.byteOfColumn column) := by
  constructor
  · obtain ⟨before, isPrefix, offset_eq⟩ := line.exists_prefix_byteOfColumn column
    rw [offset_eq]
    exact ⟨⟨before, isPrefix, rfl⟩, _, columnOfByte?_of_isPrefix isPrefix,
      (byteOfColumn_le_iff inLine isPrefix).1 offset_eq.le⟩
  · rintro byte ⟨⟨before, isPrefix, rfl⟩, reached, isReached, notBehind⟩
    rw [columnOfByte?_of_isPrefix isPrefix] at isReached
    obtain rfl := Option.some.inj isReached
    exact (byteOfColumn_le_iff inLine isPrefix).2 notBehind

theorem boundariesFrom_eq_empty (pastEnd : line.utf16Length < column) :
    line.boundariesFrom column = ∅ := by
  refine Set.eq_empty_of_forall_notMem ?_
  rintro byte ⟨⟨before, isPrefix, rfl⟩, reached, isReached, notBehind⟩
  rw [columnOfByte?_of_isPrefix isPrefix] at isReached
  obtain rfl := Option.some.inj isReached
  have := utf16Length_le_of_isPrefix isPrefix
  omega

theorem byteOfColumn_mono (line : Text) : Monotone line.byteOfColumn := by
  intro column later ordered
  rcases Nat.le_total later line.utf16Length with inLine | pastEnd
  · obtain ⟨before, isPrefix, offset_eq⟩ := line.exists_prefix_byteOfColumn later
    rw [offset_eq]
    have notBehind := (byteOfColumn_le_iff inLine isPrefix).1 offset_eq.le
    exact (byteOfColumn_le_iff (Nat.le_trans ordered inLine) isPrefix).2
      (Nat.le_trans ordered notBehind)
  · obtain ⟨before, isPrefix, offset_eq⟩ := line.exists_prefix_byteOfColumn column
    rw [byteOfColumn_of_utf16Length_le pastEnd, offset_eq]
    exact utf8Length_le_of_prefix isPrefix

theorem columnOfByte?_mono {later laterColumn : Nat} (ordered : byte ≤ later)
    (found : line.columnOfByte? byte = some column)
    (laterFound : line.columnOfByte? later = some laterColumn) : column ≤ laterColumn := by
  obtain ⟨before, isPrefix, offset_eq, rfl⟩ := columnOfByte?_eq_some_iff.1 found
  obtain ⟨laterBefore, isLaterPrefix, laterOffset_eq, rfl⟩ :=
    columnOfByte?_eq_some_iff.1 laterFound
  rw [← utf8Length_le_iff_utf16Length_le isPrefix isLaterPrefix]
  omega

/-! ## There and back -/

theorem byteOfColumn_of_isPrefix (isPrefix : before <+: line) :
    line.byteOfColumn before.utf16Length = before.utf8Length := by
  obtain ⟨after, rfl⟩ := isPrefix
  exact byteOfColumn_utf16Length before after

theorem columnOfByte?_byteOfColumn (inLine : column ≤ line.utf16Length)
    (outside : ¬ line.InsidePair column) :
    line.columnOfByte? (line.byteOfColumn column) = some column := by
  obtain ⟨before, after, rfl, cursor_eq, fallsAt⟩ := line.exists_cursor column
  rw [cursor_eq, columnOfByte?_utf8Length]
  rcases fallsAt with between | ⟨lead, c, rfl, isPair, column_eq⟩
  · rw [between, Nat.min_eq_left inLine]
  · exact absurd ⟨lead, c, after, by simp, isPair, column_eq⟩ outside

theorem columnOfByte?_byteOfColumn_of_insidePair (inside : line.InsidePair column) :
    line.columnOfByte? (line.byteOfColumn column) = some (column + 1) := by
  obtain ⟨lead, c, after, rfl, isPair, rfl⟩ := inside
  have offset_eq := byteOfColumn_append lead (c :: after) 1
  have pairPassed : byteOfColumn (c :: after) 1 = c.utf8Size := by
    rw [byteOfColumn, isPair, Nat.sub_eq_zero_of_le (by omega), byteOfColumn_zero, Nat.add_zero]
  have placed := columnOfByte?_utf8Length (lead ++ [c]) after
  simp only [utf8Length_append, utf8Length_cons, utf8Length_nil, utf16Length_append,
    utf16Length_cons, utf16Length_nil, List.append_assoc, List.singleton_append, Nat.add_zero,
    isPair] at placed
  rw [offset_eq, pairPassed, placed]

/-- The two conversions of a line.  An offset has a column if, brought back to the line, it falls
between two characters.  The offset of a column on the line is the first place whose column is not
less; past the end there is no such place, and the offset is the end.  An offset between two
characters comes back from its column.  A column comes back from its offset, but one between the
two units of a character as the next column, and one past the end as the end.  Both conversions
keep the order. -/
theorem byteOfColumn_adjoint_columnOfByte? (line : Text) :
    (∀ byte, line.IsBoundary (min byte line.utf8Length) ↔
      ∃ column, line.columnOfByte? byte = some column) ∧
    (∀ column, column ≤ line.utf16Length →
      IsLeast (line.boundariesFrom column) (line.byteOfColumn column)) ∧
    (∀ column, line.utf16Length < column →
      line.boundariesFrom column = ∅ ∧ line.byteOfColumn column = line.utf8Length) ∧
    (∀ byte, line.IsBoundary byte →
      (line.columnOfByte? byte).map line.byteOfColumn = some byte) ∧
    (∀ column, column ≤ line.utf16Length → ¬ line.InsidePair column →
      line.columnOfByte? (line.byteOfColumn column) = some column) ∧
    (∀ column, line.InsidePair column →
      line.columnOfByte? (line.byteOfColumn column) = some (column + 1)) ∧
    (∀ column, line.utf16Length < column →
      line.columnOfByte? (line.byteOfColumn column) = some line.utf16Length) ∧
    Monotone line.byteOfColumn ∧
    ∀ byte later column laterColumn, byte ≤ later → line.columnOfByte? byte = some column →
      line.columnOfByte? later = some laterColumn → column ≤ laterColumn := by
  refine ⟨fun _ => isBoundary_min_iff, fun _ => isLeast_byteOfColumn, ?_, ?_,
    fun _ => columnOfByte?_byteOfColumn, fun _ => columnOfByte?_byteOfColumn_of_insidePair, ?_,
    line.byteOfColumn_mono, fun _ _ _ _ => columnOfByte?_mono⟩
  · intro column pastEnd
    exact ⟨boundariesFrom_eq_empty pastEnd, byteOfColumn_of_utf16Length_le pastEnd.le⟩
  · rintro byte ⟨before, isPrefix, rfl⟩
    rw [columnOfByte?_of_isPrefix isPrefix, Option.map_some, byteOfColumn_of_isPrefix isPrefix]
  · intro column pastEnd
    rw [byteOfColumn_of_utf16Length_le pastEnd.le, columnOfByte?_of_isPrefix List.prefix_rfl]

/-- On a line with characters of one, four and two bytes: the column inside the pair goes on to
the end of the pair, and the others come back. -/
theorem byteOfColumn_adjoint_columnOfByte?_astral :
    let line : Text := ['a', '𝔸', 'é']
    line.InsidePair 2 ∧ line.columnOfByte? (line.byteOfColumn 2) = some 3 ∧
      IsLeast (line.boundariesFrom 2) 5 ∧ ¬ line.IsBoundary 3 ∧
      line.boundariesFrom 5 = ∅ ∧ line.byteOfColumn 5 = 7 := by
  intro line
  obtain ⟨defined, least, beyond, -, -, inPair, -⟩ := byteOfColumn_adjoint_columnOfByte? line
  have inside : line.InsidePair 2 := ⟨['a'], '𝔸', ['é'], rfl, by decide, by decide⟩
  refine ⟨inside, inPair 2 inside, least 2 (by decide), fun isBoundary => ?_,
    beyond 5 (by decide)⟩
  obtain ⟨column, found⟩ := (defined 3).1 isBoundary
  have missing : line.columnOfByte? 3 = none := by decide
  rw [missing] at found
  cases found

end GotoDefinition.Text
