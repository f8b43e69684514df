import GotoDefinition.Proofs.Symbols
import GotoDefinition.Proofs.Text.Checked
import GotoDefinition.Proofs.Text.Word

/-!
# Texts without faults

Every step that may fail succeeds, on every text shorter than `2 ^ 32` bytes and at every cursor:
the bytes that end a line are characters of their own, lines start between characters, cursors
and matches lie there too, and no start of a line is beyond the place it was looked up for.
-/

namespace GotoDefinition.Checked

/-! ## Line breaks among the bytes -/

theorem toNat_of_isBreakByte {byte : UInt8} (isBreak : isBreakByte byte = true) :
    byte.toNat = '\n'.toNat ∨ byte.toNat = '\r'.toNat := by
  rcases Bool.or_eq_true_iff.1 isBreak with isFeed | isReturn
  · exact .inl (by rw [eq_of_beq isFeed]; rfl)
  · exact .inr (by rw [eq_of_beq isReturn]; rfl)

theorem isBreakByte_eq_false {line : Text} (unbroken : line.OnOneLine) {byte : UInt8}
    (member : byte ∈ line.utf8Bytes) : isBreakByte byte = false := by
  obtain ⟨c, isCharacter, isByte⟩ := List.mem_flatMap.1 member
  by_contra isBreak
  rw [Bool.not_eq_false] at isBreak
  have code := toNat_of_isBreakByte isBreak
  -- All bytes of a longer character are 128 or more, so this one is a character of its own.
  have ascii : byte.toNat < 0x80 := by
    rcases code with isFeed | isReturn
    · rw [isFeed]; decide
    · rw [isReturn]; decide
  obtain ⟨-, code_eq⟩ := Text.eq_singleton_of_ascii_mem isByte ascii
  have notEnd := (Text.isTerminator_eq_false_iff c).1 (unbroken c isCharacter)
  rw [code_eq, Char.toNat_inj, Char.toNat_inj] at code
  rcases code with isFeed | isReturn
  · exact notEnd.1 isFeed
  · exact notEnd.2 isReturn

theorem findIdx?_of_onOneLine {line : Text} (unbroken : line.OnOneLine) :
    line.utf8Bytes.findIdx? isBreakByte = none :=
  List.findIdx?_eq_none_iff.2 fun _ => isBreakByte_eq_false unbroken

/-- A line feed among the bytes is a line feed in the text. -/
theorem head?_utf8Bytes_eq_lineFeed_iff (text : Text) :
    text.utf8Bytes.head? = some 0x0A ↔ text.head? = some '\n' := by
  cases text with
  | nil => simp [Text.utf8Bytes]
  | cons c rest =>
    obtain ⟨first, trail, encoded, isCharacter⟩ := Text.exists_isCharacter c
    rw [Text.utf8Bytes, List.flatMap_cons, encoded, List.cons_append, List.head?_cons,
      List.head?_cons, Option.some.injEq, Option.some.injEq]
    constructor
    · rintro rfl
      exact Char.toNat_inj.1 (isCharacter.alone (by decide)).2.symm
    · rintro rfl
      exact (List.head_eq_of_cons_eq encoded).symm

theorem utf8Bytes_lineFeed (rest : Text) :
    Text.utf8Bytes ('\n' :: rest) = 0x0A :: rest.utf8Bytes :=
  Text.utf8Bytes_cons_of_ascii (by decide) rest

theorem utf8Bytes_carriageReturn (rest : Text) :
    Text.utf8Bytes ('\r' :: rest) = 0x0D :: rest.utf8Bytes :=
  Text.utf8Bytes_cons_of_ascii (by decide) rest

theorem beginsWithBoth_carriageReturn (rest : Text) :
    beginsWithBoth (Text.utf8Bytes ('\r' :: rest)) = (rest.head? == some '\n') := by
  rw [utf8Bytes_carriageReturn, beginsWithBoth, List.isPrefixOf_cons_cons, BEq.rfl, Bool.true_and,
    Bool.eq_iff_iff, beq_iff_eq, ← head?_utf8Bytes_eq_lineFeed_iff]
  cases rest.utf8Bytes with
  | nil => simp
  | cons byte bytes => simp [eq_comm (a := byte)]

/-- How wide a break is can be told from its bytes. -/
theorem beginsWithBoth_lineBreak {mark rest : Text} (isBreak : Text.LineBreak mark rest) :
    (if beginsWithBoth (mark ++ rest).utf8Bytes then 2 else 1) = mark.utf8Length := by
  cases isBreak with
  | lineFeed => rw [List.singleton_append, utf8Bytes_lineFeed]; rfl
  | both => rw [List.cons_append, beginsWithBoth_carriageReturn]; rfl
  | carriageReturn alone =>
    rw [List.singleton_append, beginsWithBoth_carriageReturn, beq_false_of_ne alone]
    rfl

theorem findIdx?_lineBreak {line mark rest : Text} (unbroken : line.OnOneLine)
    (isBreak : Text.LineBreak mark rest) :
    (line ++ (mark ++ rest)).utf8Bytes.findIdx? isBreakByte = some line.utf8Length := by
  have atOnce : (mark ++ rest).utf8Bytes.findIdx? isBreakByte = some 0 := by
    cases isBreak with
    | lineFeed => rw [List.singleton_append, utf8Bytes_lineFeed]; rfl
    | both => rw [List.cons_append, utf8Bytes_carriageReturn]; rfl
    | carriageReturn => rw [List.singleton_append, utf8Bytes_carriageReturn]; rfl
  rw [Text.utf8Bytes_append, List.findIdx?_append, findIdx?_of_onOneLine unbroken, atOnce,
    Text.length_utf8Bytes]
  simp

/-! ## Lines -/

theorem lineAt_eq {content : Text} (fits : content.Fits) (n : Nat) :
    lineAt content n = .ok (content.lineAt n) := by
  induction n generalizing content with
  | zero =>
    rcases content.onOneLine_or_lineBreak with
      unbroken | ⟨line, mark, rest, rfl, unbroken, isBreak⟩
    · have whole := sliceTo_utf8Length content []
      rw [List.append_nil] at whole
      simp [lineAt, findIdx?_of_onOneLine unbroken, Text.length_utf8Bytes, whole,
        Text.lineAt_zero_of_onOneLine unbroken]
    · simp [lineAt, findIdx?_lineBreak unbroken isBreak,
        Text.lineAt_zero_nextLine unbroken isBreak]
  | succ n ih =>
    rcases content.onOneLine_or_lineBreak with
      unbroken | ⟨line, mark, rest, rfl, unbroken, isBreak⟩
    · simp [lineAt, findIdx?_of_onOneLine unbroken, Text.lineAt_succ_of_onOneLine unbroken]
    · unfold Text.Fits at fits
      rw [Text.utf8Length_append, Text.utf8Length_append] at fits
      have behind := bytesFrom_length line.utf8Bytes (mark ++ rest).utf8Bytes
      rw [← Text.utf8Bytes_append, Text.length_utf8Bytes] at behind
      -- The bytes tell how wide the break is, so the cut is right behind it.
      have cutOff := sliceFrom_utf8Length (line ++ mark) rest
      rw [List.append_assoc, Text.utf8Length_append] at cutOff
      have restFits : rest.Fits := by
        unfold Text.Fits
        omega
      simp [lineAt, findIdx?_lineBreak unbroken isBreak, behind, beginsWithBoth_lineBreak isBreak,
        add_of_lt (show line.utf8Length + mark.utf8Length < limit32 by omega), cutOff,
        ih restFits, Text.lineAt_nextLine unbroken isBreak]

theorem filterMapM_eq {α β : Type} {list : List α} {f : α → Checked (Option β)}
    {g : α → Option β} (same : ∀ a ∈ list, f a = .ok (g a)) :
    list.filterMapM f = .ok (list.filterMap g) := by
  induction list with
  | nil => rfl
  | cons a list ih =>
    obtain ⟨first, others⟩ := List.forall_mem_cons.1 same
    rw [List.filterMapM_cons, first, ok_bind, ih others]
    cases found : g a <;> simp [found]

/-- What `startBehind` finds where it does not fail. -/
def startBehind? (bytes : Bytes) (place : Nat) : Option Nat :=
  if beginsWithBoth (bytes.drop place) then none else some (place + 1)

theorem startBehind?_append (before rest : Text) :
    startBehind? (before ++ rest).utf8Bytes before.utf8Length =
      if beginsWithBoth rest.utf8Bytes then none else some (before.utf8Length + 1) := by
  rw [startBehind?, Text.utf8Bytes_append, ← Text.length_utf8Bytes, List.drop_left]

theorem filterMap_startBehind? (before rest : Text) :
    (rest.utf8Bytes.findIdxs isBreakByte before.utf8Length).filterMap
        (startBehind? (before ++ rest).utf8Bytes) =
      Text.lineStartsFrom before.utf8Length rest := by
  -- The text `before` has been read; its length is where the next byte stands.
  induction rest generalizing before with
  | nil => rfl
  | cons c rest ih =>
    have here := startBehind?_append before (c :: rest)
    have next := ih (before ++ [c])
    rw [List.append_assoc, List.singleton_append, Text.utf8Length_append, Text.utf8Length_cons,
      Text.utf8Length_nil, Nat.add_zero] at next
    cases isEnd : Text.isTerminator c with
    | false =>
      have unbroken : Text.OnOneLine [c] := by simpa [Text.OnOneLine] using isEnd
      have noBreak : (Text.utf8Bytes [c]).findIdxs isBreakByte before.utf8Length = [] :=
        List.findIdxs_eq_nil_iff.2 fun byte => isBreakByte_eq_false unbroken
      have starts := Text.lineStartsFrom_append_of_onOneLine unbroken before.utf8Length rest
      rw [List.singleton_append, Text.utf8Length_cons, Text.utf8Length_nil, Nat.add_zero] at starts
      rw [starts, ← next, ← List.singleton_append, Text.utf8Bytes_append [c] rest,
        List.findIdxs_append, noBreak, List.nil_append, Text.length_utf8Bytes,
        Text.utf8Length_cons, Text.utf8Length_nil, Nat.add_zero]
    | true =>
      rcases (Text.isTerminator_eq_true_iff c).1 isEnd with rfl | rfl
      · have width : '\n'.utf8Size = 1 := rfl
        have alone : beginsWithBoth (Text.utf8Bytes ('\n' :: rest)) = false := by
          rw [utf8Bytes_lineFeed]
          rfl
        rw [alone] at here
        rw [utf8Bytes_lineFeed, List.findIdxs_cons, if_pos (by decide), List.filterMap_cons, here]
        simpa [Text.lineStartsFrom, width] using next
      · have width : '\r'.utf8Size = 1 := rfl
        rw [beginsWithBoth_carriageReturn] at here
        rw [utf8Bytes_carriageReturn, List.findIdxs_cons, if_pos (by decide), List.filterMap_cons,
          here]
        -- Ahead of a line feed the line does not start yet.
        by_cases paired : rest.head? = some '\n'
        · simpa [Text.lineStartsFrom, width, paired] using next
        · simpa [Text.lineStartsFrom, width, paired] using next

theorem startBehind_eq {content : Text} (fits : content.Fits) {place : Nat}
    (inside : place < content.utf8Bytes.length) :
    startBehind content.utf8Bytes place = .ok (startBehind? content.utf8Bytes place) := by
  unfold Text.Fits at fits
  rw [Text.length_utf8Bytes] at inside
  have behind : bytesFrom content.utf8Bytes place = .ok (content.utf8Bytes.drop place) :=
    if_pos (by rw [Text.length_utf8Bytes]; omega)
  simp only [startBehind, behind, ok_bind, startBehind?]
  split
  · rfl
  · rw [add_of_lt (by omega), map_ok]

theorem lineStarts_eq {content : Text} (fits : content.Fits) :
    lineStarts content = .ok content.lineStarts := by
  have found : (content.utf8Bytes.findIdxs isBreakByte).filterMapM (startBehind content.utf8Bytes) =
      .ok (Text.lineStartsFrom 0 content) := by
    have starts := filterMap_startBehind? [] content
    rw [Text.utf8Length_nil, List.nil_append] at starts
    rw [← starts]
    refine filterMapM_eq fun place member => startBehind_eq fits ?_
    simpa using List.lt_add_of_mem_findIdxs place member
  rw [lineStarts, found]
  rfl

/-! ## Columns and offsets -/

theorem utf16Length_lt {line : Text} (fits : line.Fits) : line.utf16Length < limit32 :=
  Nat.lt_of_le_of_lt line.utf16Length_le_utf8Length fits

theorem foldlM_add {front : Text} {units : Nat} (small : units + front.utf16Length < limit32) :
    front.foldlM (fun units c => add units (utf16Size c)) units =
      .ok (units + front.utf16Length) := by
  induction front generalizing units with
  | nil => rfl
  | cons c rest ih =>
    rw [Text.utf16Length_cons] at small
    rw [List.foldlM_cons, add_of_lt (by omega), ok_bind, ih (by omega), Text.utf16Length_cons,
      Nat.add_assoc]

theorem columnOfByte_eq {line : Text} (fits : line.Fits) (byte : Nat) :
    columnOfByte line byte = cut (line.columnOfByte? byte) := by
  rw [columnOfByte, sliceTo]
  cases taken : line.takeBytes? (min byte line.utf8Length) with
  | none =>
    have noColumn : line.columnOfByte? byte = none := by
      refine Option.eq_none_iff_forall_ne_some.2 fun column found => ?_
      obtain ⟨front, isPrefix, length_eq, -⟩ := Text.columnOfByte?_eq_some_iff.1 found
      rw [Text.takeBytes?_eq_some_iff.2 ⟨isPrefix, length_eq⟩] at taken
      cases taken
    rw [noColumn]
    rfl
  | some front =>
    obtain ⟨isPrefix, length_eq⟩ := Text.takeBytes?_eq_some_iff.1 taken
    have column := Text.columnOfByte?_eq_some_iff.2 ⟨front, isPrefix, length_eq, rfl⟩
    have notLonger := Text.utf16Length_le_of_isPrefix isPrefix
    have small := utf16Length_lt fits
    rw [column, cut_some, cut_some, ok_bind, foldlM_add (by omega), Nat.zero_add]

/-- The only way to fail is to ask for an offset inside a character. -/
theorem columnOfByte_eq_error_iff {line : Text} (fits : line.Fits) (byte : Nat) (fault : Fault) :
    columnOfByte line byte = .error fault ↔
      fault = .slice ∧ ¬ line.IsBoundary (min byte line.utf8Length) := by
  rw [columnOfByte_eq fits, cut_eq_error_iff, Text.isBoundary_min_iff, ← Option.isSome_iff_exists,
    Option.not_isSome_iff_eq_none]

theorem byteOfColumnFrom_eq {rest : Text} {units : Nat} (small : units + rest.utf16Length < limit32)
    (column byte : Nat) :
    byteOfColumnFrom column units byte rest = .ok (byte + rest.byteOfColumn (column - units)) := by
  induction rest generalizing units byte with
  | nil => rfl
  | cons c rest ih =>
    rw [Text.utf16Length_cons] at small
    rw [byteOfColumnFrom]
    split
    next reached => rw [Nat.sub_eq_zero_of_le reached, Text.byteOfColumn_zero]; rfl
    next ahead =>
      have positive := utf16Size_pos c
      obtain ⟨left, left_eq⟩ : ∃ left, column - units = left + 1 :=
        ⟨column - units - 1, by omega⟩
      rw [add_of_lt (by omega), ok_bind, ih (by omega), left_eq, Text.byteOfColumn, ← left_eq,
        Nat.sub_sub, Nat.add_assoc]

theorem byteOfColumn_eq {line : Text} (fits : line.Fits) (column : Nat) :
    byteOfColumn line column = .ok (line.byteOfColumn column) := by
  have small := utf16Length_lt fits
  rw [byteOfColumn, byteOfColumnFrom_eq (by omega), Nat.zero_add, Nat.sub_zero]

/-! ## Positions -/

section

variable {isFront : Nat → Bool} {list : List Nat}
  (sorted : list.Pairwise fun earlier later => isFront later = true → isFront earlier = true)

include sorted

theorem any_getElem?_iff (place : Nat) :
    list[place]?.any isFront = true ↔ place < (list.takeWhile isFront).length := by
  induction list generalizing place with
  | nil => simp
  | cons value rest ih =>
    obtain ⟨first, others⟩ := List.pairwise_cons.1 sorted
    cases isValue : isFront value with
    | true =>
      cases place with
      | zero => simp [isValue]
      | succ place => simpa [isValue] using ih others place
    | false =>
      -- Nothing behind a value that is not in front is in front.
      have noneLater : ∀ later ∈ rest, isFront later = false := by
        intro later member
        by_contra isLater
        rw [Bool.not_eq_false] at isLater
        rw [first later member isLater] at isValue
        cases isValue
      have noneAtAll : ∀ found, (value :: rest)[place]? = some found → isFront found = false := by
        intro found isFound
        rcases List.mem_cons.1 (List.mem_of_getElem? isFound) with rfl | later
        · exact isValue
        · exact noneLater found later
      cases found : (value :: rest)[place]? with
      | none => simp [isValue]
      | some other => simp [isValue, noneAtAll other found]

theorem partitionPoint_eq {low high : Nat} (notBelow : low ≤ (list.takeWhile isFront).length)
    (notAbove : (list.takeWhile isFront).length ≤ high) :
    partitionPoint isFront list low high = (list.takeWhile isFront).length := by
  fun_induction partitionPoint isFront list low high with
  | case1 low high _ middle inFront ih =>
    have below := (any_getElem?_iff sorted middle).1 inFront
    exact ih below notAbove
  | case2 low high _ middle notInFront ih =>
    have above := mt (any_getElem?_iff sorted middle).2 notInFront
    exact ih notBelow (by omega)
  | case3 low high done => omega

end

theorem sorted_lineStarts (content : Text) (offset : Nat) :
    content.lineStarts.Pairwise fun earlier later =>
      decide (later ≤ offset) = true → decide (earlier ≤ offset) = true := by
  refine content.pairwise_lineStarts.imp ?_
  intro earlier later before
  simp only [decide_eq_true_eq]
  omega

/-- The line of an offset: its start is a place of the text and not beyond the offset. -/
theorem exists_lineStart (content : Text) (offset : Nat) :
    ∃ (line : Nat) (before behind : Text), content = before ++ behind ∧
      (content.lineStarts.takeWhile (· ≤ offset)).length = line + 1 ∧
      content.lineStarts[line]? = some before.utf8Length ∧ before.utf8Length ≤ offset ∧
      line ≤ content.utf8Length := by
  -- The first line starts at 0, which is beyond no offset, so there is a line to be found.
  obtain ⟨line, count_eq⟩ : ∃ line,
      (content.lineStarts.takeWhile (· ≤ offset)).length = line + 1 :=
    ⟨_, by rw [Text.lineStarts, List.takeWhile_cons_of_pos (by simp), List.length_cons]⟩
  obtain ⟨start, isStart, notBeyond⟩ : ∃ start, content.lineStarts[line]? = some start ∧
      start ≤ offset := by
    have inFront := (any_getElem?_iff (sorted_lineStarts content offset) line).2 (by omega)
    simpa [Option.any_eq_true] using inFront
  obtain ⟨before, behind, rfl, -, rfl, -⟩ :=
    (Text.getElem?_lineStarts_eq_some_iff ..).1 isStart
  refine ⟨line, before, behind, rfl, count_eq, isStart, notBeyond, ?_⟩
  have inList := (List.getElem?_eq_some_iff.1 isStart).1
  have few := (before ++ behind).length_lineStartsFrom_le 0
  rw [Text.lineStarts, List.length_cons] at inList
  omega

/-- Neither the search for the line nor the distance from its start fails at any offset: what is
left to fail is the cut at the offset itself. -/
theorem positionAt_eq {content : Text} (fits : content.Fits) (offset : Nat) :
    positionAt content.lineStarts content offset =
      cut (Text.positionAt? content.lineStarts content offset) := by
  have point := partitionPoint_eq (sorted_lineStarts content offset) (Nat.zero_le _)
    (List.takeWhile_prefix (fun start => decide (start ≤ offset))).length_le
  obtain ⟨line, before, behind, content_eq, count_eq, isStart, notBeyond, small⟩ :=
    exists_lineStart content offset
  have elementAt : element content.lineStarts line = .ok before.utf8Length := by
    rw [element, isStart]
  have dropped : content.dropBytes? before.utf8Length = some behind :=
    Text.dropBytes?_eq_some_iff.2 ⟨before, content_eq, rfl⟩
  have behindFits : behind.Fits := fits.of_piece ⟨before, [], by simp [content_eq]⟩
  have lineSmall : line < limit32 := Nat.lt_of_le_of_lt small fits
  rw [Text.positionAt?_eq_bind, positionAt, point, count_eq, subtract_of_le (by omega), ok_bind,
    Nat.add_sub_cancel, elementAt, ok_bind, isStart, Option.bind_some, sliceFrom, dropped,
    cut_some, ok_bind, Option.bind_some, subtract_of_le notBeyond, ok_bind,
    columnOfByte_eq behindFits]
  cases behind.columnOfByte? (offset - before.utf8Length) with
  | none => rfl
  | some character =>
    rw [cut_some, ok_bind, Nat.mod_eq_of_lt lineSmall]
    rfl

theorem positionAt_eq_error_iff {content : Text} (fits : content.Fits) (offset : Nat)
    (fault : Fault) :
    positionAt content.lineStarts content offset = .error fault ↔
      fault = .slice ∧ ¬ content.IsBoundary (min offset content.utf8Length) := by
  obtain ⟨line, before, behind, content_eq, count_eq, isStart, notBeyond, -⟩ :=
    exists_lineStart content offset
  obtain ⟨distance, rfl⟩ := Nat.exists_eq_add_of_le notBeyond
  -- Whether there is a column behind the start of the line is whether there is one at all.
  have dropped : content.dropBytes? before.utf8Length = some behind :=
    Text.dropBytes?_eq_some_iff.2 ⟨before, content_eq, rfl⟩
  rw [positionAt_eq fits, cut_eq_error_iff, Text.isBoundary_min_iff, ← Option.isSome_iff_exists,
    Option.not_isSome_iff_eq_none, Text.positionAt?_eq_bind, count_eq, Nat.add_sub_cancel, isStart,
    Option.bind_some, dropped, Option.bind_some, Nat.add_sub_cancel_left, content_eq,
    Text.columnOfByte?_append, Option.map_eq_none_iff, Option.map_eq_none_iff]

/-! ## Words -/

theorem word_eq {line : Text} (fits : line.Fits) (span : Span) :
    word line span = cut (Word.ofSpan? line span) := by
  rw [word, slice, columnOfByte_eq fits, columnOfByte_eq fits, Word.ofSpan?]
  cases line.slice? span.start span.stop with
  | none => rfl
  | some text =>
    cases line.columnOfByte? span.start with
    | none => rfl
    | some start => cases line.columnOfByte? span.stop <;> rfl

theorem wordAmong_eq {line : Text} (fits : line.Fits) {spans : List Span}
    (matched : MatchesOf line spans) (column : Nat) :
    wordAmong line column spans = .ok (line.wordAmong? column spans) := by
  rw [wordAmong, byteOfColumn_eq fits, ok_bind, Text.wordAmong?]
  cases found : spanAt? spans (line.byteOfColumn column) with
  | none => rfl
  | some span =>
    rw [matched.spanAt?_eq] at found
    obtain ⟨before, piece, after, cuts⟩ := matched.cut span (List.mem_of_find?_eq_some found)
    simp [word_eq fits, cuts.ofSpan?_eq]

theorem wordAt_eq {line : Text} (fits : line.Fits) (column : Nat) :
    wordAt line column = .ok (line.wordAt? column) :=
  wordAmong_eq fits (Pattern.matchesOf_spans _ line) column

theorem originRange_eq {line : Text} (fits : line.Fits) (compiler : PatternCompiler)
    (position : Position) (name : Text) :
    originRange compiler line position name =
      .ok (Resolver.originRange? compiler line position name) := by
  rw [originRange, Resolver.originRange?]
  cases compiler.literal? name with
  | none => rfl
  | some pattern =>
    simp only [wordAmong_eq fits (pattern.matchesOf_spans line), ok_bind, pure_eq,
      Option.bind_eq_bind, Option.bind_some, Text.matchAt?]
    cases line.wordAmong? position.character (pattern.spans line) <;> rfl

/-! ## Symbols -/

theorem symbol_eq {content : Text} (fits : content.Fits) (uri : Uri) (declaration : Declaration) :
    symbol uri content content.lineStarts declaration =
      cut (declaration.symbol? uri content content.lineStarts) := by
  rw [symbol, slice, positionAt_eq fits, positionAt_eq fits, Declaration.symbol?]
  cases content.slice? declaration.name.start declaration.name.stop with
  | none => rfl
  | some name =>
    cases Text.positionAt? content.lineStarts content declaration.name.start with
    | none => rfl
    | some start =>
      cases Text.positionAt? content.lineStarts content declaration.name.stop <;> rfl

theorem mapM_eq {α β : Type} {list : List α} {f : α → Checked β} {g : α → Option β}
    (same : ∀ a ∈ list, ∃ b, f a = .ok b ∧ g a = some b) :
    list.mapM f = .ok (list.filterMap g) := by
  induction list with
  | nil => rfl
  | cons a list ih =>
    obtain ⟨⟨b, checked, found⟩, others⟩ := List.forall_mem_cons.1 same
    simp [List.mapM_cons, checked, found, ih others]

theorem symbols_eq {content : Text} (fits : content.Fits) (uri : Uri) :
    symbols uri content = .ok (content.symbols uri) := by
  rw [symbols, lineStarts_eq fits, ok_bind]
  refine mapM_eq fun declaration member => ?_
  obtain ⟨before, head, after, stands⟩ := Declaration.stands_of_mem_declarations member
  exact ⟨_, by rw [symbol_eq fits, stands.symbol?_eq, cut_some], stands.symbol?_eq uri⟩

end GotoDefinition.Checked
