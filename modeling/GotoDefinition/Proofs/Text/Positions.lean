import GotoDefinition.Proofs.Text.Faults

/-!
# Positions against lines

A position is looked up among the starts of the lines, and lines are read by cutting off one break
after the other.  Both know a line by the text ahead of it (`LinesAhead`), so a position leads back
to its offset: the column is counted on the very line that has the number, from where that line
starts.  The exception is the middle of a carriage return and line feed, which belongs to no line.

That positions follow the order of the offsets needs no exception: of two offsets the later one is
found on a later line, or further behind the same start.  Both are put together in
`positions_invert_lines`.
-/

namespace GotoDefinition.Text

/-! ## From a position back to the offset -/

/-- The position of a place is a column of a line, and leads back to the place from where the line
begins. -/
theorem endPosition_leads_back {before after : Text} (whole : ¬ SplitsBreak before after) :
    ∃ line start, lineAt (before ++ after) before.endPosition.line = some line ∧
      (before ++ after).lineStarts[before.endPosition.line]? = some start ∧
      start + line.byteOfColumn before.endPosition.character = before.utf8Length ∧
      before.endPosition.character ≤ line.utf16Length := by
  obtain ⟨ahead, before_eq, stand⟩ := exists_linesAhead_lastLine whole
  have start_eq := stand.lineStarts_eq
  rw [← List.append_assoc, ← before_eq] at start_eq
  refine ⟨_, _, lineAt_breakCount whole, start_eq, ?_, ?_⟩
  · calc ahead.utf8Length + byteOfColumn _ before.lastLine.utf16Length
        = ahead.utf8Length + before.lastLine.utf8Length := by rw [byteOfColumn_utf16Length]
      _ = (ahead ++ before.lastLine).utf8Length := (utf8Length_append _ _).symm
      _ = before.utf8Length := by rw [← before_eq]
  · rw [utf16Length_append]
    exact Nat.le_add_right _ _

/-! ## The order of positions -/

/-- A place is found behind the last start that is not beyond it, and its column is the length of
the text in between. -/
theorem exists_positionAt? {content : Text} {offset : Nat} (isBoundary : content.IsBoundary offset) :
    ∃ (n start : Nat) (behind part : Text), content.lineStarts[n]? = some start ∧
      (content.lineStarts.takeWhile (· ≤ offset)).length = n + 1 ∧
      content.dropBytes? start = some behind ∧ part <+: behind ∧
      offset = start + part.utf8Length ∧
      positionAt? content.lineStarts content offset =
        some { line := n, character := part.utf16Length } := by
  obtain ⟨n, ahead, behind, rfl, count_eq, isStart, notBeyond, -⟩ :=
    Checked.exists_lineStart content offset
  obtain ⟨before, isPrefix, rfl⟩ := isBoundary
  -- The start is not beyond the place, so the text ahead of it is part of the text before.
  obtain ⟨part, rfl⟩ := prefix_of_utf8Length_le (List.prefix_append ahead behind) isPrefix notBeyond
  have partPrefix : part <+: behind := (List.prefix_append_right_inj ahead).1 isPrefix
  have dropped : (ahead ++ behind).dropBytes? ahead.utf8Length = some behind :=
    dropBytes?_eq_some_iff.2 ⟨ahead, rfl, rfl⟩
  refine ⟨n, ahead.utf8Length, behind, part, isStart, count_eq, dropped, partPrefix,
    utf8Length_append ahead part, ?_⟩
  rw [positionAt?_eq_bind, count_eq, Nat.add_sub_cancel, isStart, Option.bind_some, dropped,
    Option.bind_some, utf8Length_append, Nat.add_sub_cancel_left,
    columnOfByte?_of_isPrefix partPrefix, Option.map_some]

theorem positionAt?_strictMono {content : Text} {offset later : Nat}
    (isBoundary : content.IsBoundary offset) (isLaterBoundary : content.IsBoundary later)
    (ordered : offset < later) :
    ∃ position laterPosition, positionAt? content.lineStarts content offset = some position ∧
      positionAt? content.lineStarts content later = some laterPosition ∧
      position.Precedes laterPosition := by
  obtain ⟨n, start, behind, part, isStart, -, dropped, partPrefix, offset_eq, found⟩ :=
    exists_positionAt? isBoundary
  obtain ⟨m, laterStart, laterBehind, laterPart, isLaterStart, count_eq, laterDropped,
    laterPrefix, later_eq, laterFound⟩ := exists_positionAt? isLaterBoundary
  refine ⟨_, _, found, laterFound, ?_⟩
  -- The start of the earlier line is not beyond the later offset either.
  have notBelow : n ≤ m := by
    have inFront : content.lineStarts[n]?.any (fun start => decide (start ≤ later)) = true := by
      rw [isStart, Option.any_some, decide_eq_true_eq]
      omega
    have counted := (Checked.any_getElem?_iff (Checked.sorted_lineStarts content later) n).1 inFront
    omega
  rcases Nat.lt_or_eq_of_le notBelow with above | rfl
  · exact .inl above
  · right
    obtain rfl : start = laterStart := Option.some.inj (isStart.symm.trans isLaterStart)
    obtain rfl : behind = laterBehind := Option.some.inj (dropped.symm.trans laterDropped)
    have longer : ¬ laterPart.utf8Length ≤ part.utf8Length := by omega
    rw [utf8Length_le_iff_utf16Length_le laterPrefix partPrefix] at longer
    exact ⟨rfl, Nat.lt_of_not_le longer⟩

/-! ## Altogether -/

/-- Positions and lines of a document.  The starts of the lines increase, there are as many as
there are numbered lines, and each is the length of the lines ahead of its own.  Every place but the
middle of a carriage return and line feed has a position on a line of the document, and from the
start of that line the column leads back to the place.  Positions follow the order of all places.
In a document shorter than `2 ^ 32` bytes the numbers of the lines have 32 bits, and the starts that
the bytes give and the search by halving come to the same. -/
theorem positions_invert_lines (content : Text) :
    content.lineStarts.Pairwise (· < ·) ∧
    (∀ n, n < content.lineStarts.length ↔ ∃ line, content.lineAt n = some line) ∧
    (∀ n start, content.lineStarts[n]? = some start ↔
      ∃ ahead behind, content = ahead ++ behind ∧ LinesAhead behind n ahead ∧
        start = ahead.utf8Length ∧
        content.lineAt n = some (behind.takeWhile fun c => !isTerminator c)) ∧
    (∀ before after, content = before ++ after → ¬ SplitsBreak before after →
      ∃ position line start,
        positionAt? content.lineStarts content before.utf8Length = some position ∧
        content.lineAt position.line = some line ∧
        content.lineStarts[position.line]? = some start ∧
        start + line.byteOfColumn position.character = before.utf8Length ∧
        position.character ≤ line.utf16Length) ∧
    (∀ offset later, content.IsBoundary offset → content.IsBoundary later → offset < later →
      ∃ position laterPosition, positionAt? content.lineStarts content offset = some position ∧
        positionAt? content.lineStarts content later = some laterPosition ∧
        position.Precedes laterPosition) ∧
    (content.Fits → content.lineStarts.length ≤ limit32 ∧
      Checked.lineStarts content = .ok content.lineStarts ∧
      ∀ offset position, positionAt? content.lineStarts content offset = some position →
        Checked.positionAt content.lineStarts content offset = .ok position) := by
  refine ⟨content.pairwise_lineStarts, content.lt_length_lineStarts_iff,
    content.getElem?_lineStarts_eq_some_iff, ?_, fun _ _ => positionAt?_strictMono, ?_⟩
  · rintro before after rfl whole
    obtain ⟨line, start, leadsBack⟩ := endPosition_leads_back whole
    exact ⟨before.endPosition, line, start, positionAt?_endPosition whole, leadsBack⟩
  · intro fits
    refine ⟨?_, Checked.lineStarts_eq fits, ?_⟩
    · have few := length_lineStartsFrom_le 0 content
      rw [lineStarts, List.length_cons]
      exact Nat.lt_of_le_of_lt few fits
    · intro offset position found
      rw [Checked.positionAt_eq fits, found, Checked.cut_some]

/-- The place behind a character of two units, and the one between the two characters of a
break. -/
theorem positions_invert_lines_behind_pair :
    let content : Text := ['a', '\r', '𝔸', 'b', '\r', '\n']
    content.Fits ∧ ¬ SplitsBreak ['a', '\r', '𝔸'] ['b', '\r', '\n'] ∧
      positionAt? content.lineStarts content 6 = some { line := 1, character := 2 } ∧
      (∃ line, content.lineAt 1 = some line ∧ 2 + line.byteOfColumn 2 = 6) ∧
      SplitsBreak ['a', '\r', '𝔸', 'b', '\r'] ['\n'] ∧
      Checked.positionAt content.lineStarts content 8 = .ok { line := 1, character := 4 } ∧
      Position.Precedes { line := 1, character := 4 } { line := 2, character := 0 } := by
  intro content
  obtain ⟨-, -, -, places, ordered, bounded⟩ := positions_invert_lines content
  have fits : content.Fits := by decide
  have whole : ¬ SplitsBreak ['a', '\r', '𝔸'] ['b', '\r', '\n'] := fun splits => by
    simpa using splits.2
  have atPair : positionAt? content.lineStarts content 6 = some { line := 1, character := 2 } := by
    decide
  have inBreak : positionAt? content.lineStarts content 8 = some { line := 1, character := 4 } := by
    decide
  have behindBreak :
      positionAt? content.lineStarts content 9 = some { line := 2, character := 0 } := by
    decide
  refine ⟨fits, whole, atPair, ?_, ⟨rfl, rfl⟩, (bounded fits).2.2 8 _ inBreak, ?_⟩
  · obtain ⟨position, line, start, found, onLine, isStart, leadsBack, -⟩ :=
      places ['a', '\r', '𝔸'] ['b', '\r', '\n'] rfl whole
    obtain rfl := Option.some.inj (found.symm.trans atPair)
    obtain rfl : 2 = start := Option.some.inj isStart
    exact ⟨line, onLine, leadsBack⟩
  · obtain ⟨position, laterPosition, found, laterFound, precedes⟩ :=
      ordered 8 9 ⟨['a', '\r', '𝔸', 'b', '\r'], ⟨['\n'], rfl⟩, rfl⟩
        ⟨content, List.prefix_rfl, rfl⟩ (by decide)
    obtain rfl := Option.some.inj (found.symm.trans inBreak)
    obtain rfl := Option.some.inj (laterFound.symm.trans behindBreak)
    exact precedes

end GotoDefinition.Text
