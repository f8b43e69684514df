import GotoDefinition.Text.Units

/-!
# Offsets at character boundaries

A usable byte offset of a text is the length of some `before` in a division
`before ++ after` of it.  Every partial function of `Text.Units` has a law in this form:
an offset that lies `n` bytes (or `n` columns) beyond `before` is treated as `n` is
treated in `after`.  No later proof has to open those functions again.
-/

namespace GotoDefinition

theorem utf16Size_pos (c : Char) : 0 < utf16Size c := by
  unfold utf16Size
  split <;> decide

theorem utf16Size_le_two (c : Char) : utf16Size c ≤ 2 := by
  unfold utf16Size
  split <;> decide

/-! ## Blocks of one class -/

theorem takeWhile_append_of_head? {isMember : Char → Bool} {body rest : Text}
    (inside : ∀ c ∈ body, isMember c = true) (boundary : ∀ c ∈ rest.head?, isMember c = false) :
    (body ++ rest).takeWhile isMember = body := by
  rw [List.takeWhile_append_of_pos inside]
  cases rest with
  | nil => simp
  | cons c rest => simp [boundary c rfl]

theorem head?_dropWhile_of_mem {isMember : Char → Bool} {text : Text} {c : Char}
    (first : c ∈ (text.dropWhile isMember).head?) : isMember c = false := by
  have stops := List.head?_dropWhile_not isMember text
  rw [Option.mem_def.1 first] at stops
  exact stops

theorem dropWhile_append_of_head? {isMember : Char → Bool} {body rest : Text}
    (inside : ∀ c ∈ body, isMember c = true) (boundary : ∀ c ∈ rest.head?, isMember c = false) :
    (body ++ rest).dropWhile isMember = rest := by
  have parts := List.takeWhile_append_dropWhile (p := isMember) (l := body ++ rest)
  rw [takeWhile_append_of_head? inside boundary] at parts
  exact List.append_cancel_left parts

namespace Text

/-! ## Measures -/

@[simp] theorem utf8Length_nil : utf8Length [] = 0 := rfl

@[simp] theorem utf8Length_cons (c : Char) (rest : Text) :
    utf8Length (c :: rest) = c.utf8Size + utf8Length rest := rfl

@[simp] theorem utf8Length_append (before after : Text) :
    utf8Length (before ++ after) = utf8Length before + utf8Length after := by
  induction before with
  | nil => simp
  | cons c rest ih => simp [ih, Nat.add_assoc]

@[simp] theorem utf16Length_nil : utf16Length [] = 0 := rfl

@[simp] theorem utf16Length_cons (c : Char) (rest : Text) :
    utf16Length (c :: rest) = utf16Size c + utf16Length rest := rfl

@[simp] theorem utf16Length_append (before after : Text) :
    utf16Length (before ++ after) = utf16Length before + utf16Length after := by
  induction before with
  | nil => simp
  | cons c rest ih => simp [ih, Nat.add_assoc]

theorem utf8Length_pos {text : Text} (nonempty : text ≠ []) : 0 < utf8Length text := by
  cases text with
  | nil => exact absurd rfl nonempty
  | cons c rest =>
    have := c.utf8Size_pos
    rw [utf8Length_cons]
    omega

theorem utf16Length_pos {text : Text} (nonempty : text ≠ []) : 0 < utf16Length text := by
  cases text with
  | nil => exact absurd rfl nonempty
  | cons c rest =>
    have := utf16Size_pos c
    rw [utf16Length_cons]
    omega

theorem length_le_utf8Length (text : Text) : text.length ≤ text.utf8Length := by
  induction text with
  | nil => simp
  | cons c rest ih =>
    have := c.utf8Size_pos
    rw [List.length_cons, utf8Length_cons]
    omega

theorem utf8Length_le_of_prefix {left right : Text} (isPrefix : left <+: right) :
    left.utf8Length ≤ right.utf8Length := by
  obtain ⟨middle, rfl⟩ := isPrefix
  simp

/-- Of two beginnings of one text the one with more bytes is the longer one. -/
theorem exists_append_of_utf8Length_lt {text left right : Text} (leftPrefix : left <+: text)
    (rightPrefix : right <+: text) (shorter : left.utf8Length < right.utf8Length) :
    ∃ middle, middle ≠ [] ∧ right = left ++ middle := by
  rcases List.prefix_or_prefix_of_prefix leftPrefix rightPrefix with inside | outside
  · obtain ⟨middle, rfl⟩ := inside
    refine ⟨middle, ?_, rfl⟩
    rintro rfl
    simp at shorter
  · obtain ⟨more, rfl⟩ := outside
    rw [utf8Length_append] at shorter
    omega

theorem prefix_of_utf8Length_le {text left right : Text} (leftPrefix : left <+: text)
    (rightPrefix : right <+: text) (notLonger : left.utf8Length ≤ right.utf8Length) :
    left <+: right := by
  rcases List.prefix_or_prefix_of_prefix leftPrefix rightPrefix with inside | outside
  · exact inside
  · obtain ⟨more, rfl⟩ := outside
    cases more with
    | nil => simp
    | cons c rest =>
      have positive := c.utf8Size_pos
      rw [utf8Length_append, utf8Length_cons] at notLonger
      omega

/-- Beginnings of one text are ordered alike by their bytes and by their UTF-16 units. -/
theorem utf8Length_le_iff_utf16Length_le {text left right : Text} (leftPrefix : left <+: text)
    (rightPrefix : right <+: text) :
    left.utf8Length ≤ right.utf8Length ↔ left.utf16Length ≤ right.utf16Length := by
  rcases List.prefix_or_prefix_of_prefix leftPrefix rightPrefix with inside | outside
  · obtain ⟨middle, rfl⟩ := inside
    simp
  · obtain ⟨more, rfl⟩ := outside
    cases more with
    | nil => simp
    | cons c rest =>
      -- What is longer by a character is longer in both measures.
      have bytes := c.utf8Size_pos
      have units := utf16Size_pos c
      simp only [utf8Length_append, utf8Length_cons, utf16Length_append, utf16Length_cons]
      omega

/-! ## One character further

An offset or a column beyond the first character is a successor, which is what the
definitions match on. -/

theorem exists_byte_beyond (c : Char) (n : Nat) :
    ∃ byte, c.utf8Size + n = byte + 1 ∧ ¬ byte + 1 < c.utf8Size ∧ byte + 1 - c.utf8Size = n := by
  have positive := c.utf8Size_pos
  refine ⟨c.utf8Size + n - 1, ?_, ?_, ?_⟩ <;> omega

theorem byteOfColumn_cons (c : Char) (rest : Text) (n : Nat) :
    byteOfColumn (c :: rest) (utf16Size c + n) = c.utf8Size + rest.byteOfColumn n := by
  have positive := utf16Size_pos c
  obtain ⟨column, column_eq⟩ : ∃ column, utf16Size c + n = column + 1 :=
    ⟨utf16Size c + n - 1, by omega⟩
  have remaining : column + 1 - utf16Size c = n := by omega
  rw [column_eq, byteOfColumn, remaining]

theorem columnOfByte?_cons (c : Char) (rest : Text) (n : Nat) :
    columnOfByte? (c :: rest) (c.utf8Size + n) = (rest.columnOfByte? n).map (utf16Size c + ·) := by
  obtain ⟨byte, byte_eq, whole, remaining⟩ := exists_byte_beyond c n
  rw [byte_eq, columnOfByte?, if_neg whole, remaining]

theorem dropBytes?_cons (c : Char) (rest : Text) (n : Nat) :
    dropBytes? (c :: rest) (c.utf8Size + n) = rest.dropBytes? n := by
  obtain ⟨byte, byte_eq, whole, remaining⟩ := exists_byte_beyond c n
  rw [byte_eq, dropBytes?, if_neg whole, remaining]

theorem takeBytes?_cons (c : Char) (rest : Text) (n : Nat) :
    takeBytes? (c :: rest) (c.utf8Size + n) = (rest.takeBytes? n).map (c :: ·) := by
  obtain ⟨byte, byte_eq, whole, remaining⟩ := exists_byte_beyond c n
  rw [byte_eq, takeBytes?, if_neg whole, remaining]

/-! ## Columns and byte offsets -/

@[simp] theorem byteOfColumn_zero (text : Text) : text.byteOfColumn 0 = 0 := by
  cases text <;> rfl

@[simp] theorem columnOfByte?_zero (text : Text) : text.columnOfByte? 0 = some 0 := by
  cases text <;> rfl

theorem byteOfColumn_append (before after : Text) (n : Nat) :
    (before ++ after).byteOfColumn (before.utf16Length + n) =
      before.utf8Length + after.byteOfColumn n := by
  induction before with
  | nil => simp
  | cons c rest ih =>
    rw [List.cons_append, utf16Length_cons, Nat.add_assoc, byteOfColumn_cons, ih, utf8Length_cons,
      Nat.add_assoc]

theorem columnOfByte?_append (before after : Text) (n : Nat) :
    (before ++ after).columnOfByte? (before.utf8Length + n) =
      (after.columnOfByte? n).map (before.utf16Length + ·) := by
  induction before with
  | nil => simp
  | cons c rest ih =>
    rw [List.cons_append, utf8Length_cons, Nat.add_assoc, columnOfByte?_cons, ih, Option.map_map]
    simp only [Function.comp_def, utf16Length_cons, Nat.add_assoc]

theorem byteOfColumn_utf16Length (before after : Text) :
    (before ++ after).byteOfColumn before.utf16Length = before.utf8Length := by
  simpa using byteOfColumn_append before after 0

/-- The column of the offset at which `before` ends is the length of `before`. -/
theorem columnOfByte?_utf8Length (before after : Text) :
    (before ++ after).columnOfByte? before.utf8Length = some before.utf16Length := by
  simpa using columnOfByte?_append before after 0

/-! ## Cursors -/

/-- A column between the two UTF-16 units of one character. -/
def InsidePair (line : Text) (column : Nat) : Prop :=
  ∃ (before : Text) (c : Char) (after : Text), line = before ++ c :: after ∧ utf16Size c = 2 ∧
    column = before.utf16Length + 1

theorem InsidePair.lt_utf16Length {line : Text} {column : Nat} (inside : line.InsidePair column) :
    column < line.utf16Length := by
  obtain ⟨before, c, after, rfl, isPair, rfl⟩ := inside
  simp only [utf16Length_append, utf16Length_cons, isPair]
  omega

theorem not_insidePair_of_prefix {line before : Text} (isPrefix : before <+: line) :
    ¬ line.InsidePair before.utf16Length := by
  rintro ⟨lead, c, after, rfl, isPair, column_eq⟩
  have leadPrefix : lead <+: lead ++ c :: after := List.prefix_append lead _
  obtain ⟨middle, rfl⟩ : lead <+: before := by
    refine prefix_of_utf8Length_le leadPrefix isPrefix ?_
    exact (utf8Length_le_iff_utf16Length_le leadPrefix isPrefix).2 (by omega)
  rw [utf16Length_append] at column_eq
  -- One unit would be left for what comes behind `lead`, and the first character has two.
  cases middle with
  | nil => simp at column_eq
  | cons d middle =>
    have begins := (List.prefix_append_right_inj lead).1 isPrefix
    obtain rfl : d = c := (List.cons_prefix_cons.1 begins).1
    rw [utf16Length_cons, isPair] at column_eq
    omega

/-- A column points between two characters.  Where it does not fall there, it is past the end
or inside the last character of the text before the cursor. -/
theorem exists_cursor (line : Text) (column : Nat) :
    ∃ before after, line = before ++ after ∧ line.byteOfColumn column = before.utf8Length ∧
      (before.utf16Length = min column line.utf16Length ∨
        ∃ (lead : Text) (c : Char), before = lead ++ [c] ∧ utf16Size c = 2 ∧
          column = lead.utf16Length + 1) := by
  fun_induction byteOfColumn line column with
  | case1 column => exact ⟨[], [], rfl, rfl, .inl (by simp)⟩
  | case2 c rest => exact ⟨[], c :: rest, rfl, rfl, .inl (by simp)⟩
  | case3 c rest column ih =>
    have size := utf16Size_pos c
    have sizeBound := utf16Size_le_two c
    by_cases inside : column + 1 < utf16Size c
    · -- Only the second unit of the first character can be passed over.
      obtain rfl : column = 0 := by omega
      have nothingLeft : 0 + 1 - utf16Size c = 0 := by omega
      refine ⟨[c], rest, rfl, ?_, .inr ⟨[], c, rfl, by omega, rfl⟩⟩
      rw [nothingLeft, byteOfColumn_zero, utf8Length_cons, utf8Length_nil]
    · obtain ⟨before, after, rfl, offset_eq, fallsAt⟩ := ih
      refine ⟨c :: before, after, rfl, by rw [offset_eq, utf8Length_cons], ?_⟩
      rcases fallsAt with between | ⟨lead, d, rfl, isPair, column_eq⟩
      · left
        rw [utf16Length_cons, between, utf16Length_cons]
        omega
      · right
        refine ⟨c :: lead, d, rfl, isPair, ?_⟩
        rw [utf16Length_cons]
        omega

/-! ## Slices -/

@[simp] theorem dropBytes?_zero (text : Text) : text.dropBytes? 0 = some text := by
  cases text <;> rfl

@[simp] theorem takeBytes?_zero (text : Text) : text.takeBytes? 0 = some [] := by
  cases text <;> rfl

theorem dropBytes?_append (before after : Text) (n : Nat) :
    (before ++ after).dropBytes? (before.utf8Length + n) = after.dropBytes? n := by
  induction before with
  | nil => simp
  | cons c rest ih => rw [List.cons_append, utf8Length_cons, Nat.add_assoc, dropBytes?_cons, ih]

theorem takeBytes?_append (before after : Text) (n : Nat) :
    (before ++ after).takeBytes? (before.utf8Length + n) =
      (after.takeBytes? n).map (before ++ ·) := by
  induction before with
  | nil => simp
  | cons c rest ih =>
    rw [List.cons_append, utf8Length_cons, Nat.add_assoc, takeBytes?_cons, ih, Option.map_map]
    rfl

/-- The slice between the ends of `before` and of `before ++ middle` is `middle`. -/
theorem slice?_append (before middle after : Text) :
    (before ++ (middle ++ after)).slice? before.utf8Length (before.utf8Length + middle.utf8Length) =
      some middle := by
  have dropped := dropBytes?_append before (middle ++ after) 0
  have taken := takeBytes?_append middle after 0
  rw [Nat.add_zero, dropBytes?_zero] at dropped
  rw [Nat.add_zero, takeBytes?_zero, Option.map_some, List.append_nil] at taken
  rw [slice?, if_neg (by omega), dropped, Option.bind_some, Nat.add_sub_cancel_left, taken]

theorem dropBytes?_eq_some_iff {text rest : Text} {byte : Nat} :
    text.dropBytes? byte = some rest ↔
      ∃ before : Text, text = before ++ rest ∧ byte = before.utf8Length := by
  constructor
  · intro dropped
    fun_induction dropBytes? text byte with
    | case1 text => exact ⟨[], Option.some.inj dropped, rfl⟩
    | case2 => cases dropped
    | case3 => cases dropped
    | case4 c rest byte whole ih =>
      obtain ⟨before, text_eq, byte_eq⟩ := ih dropped
      exact ⟨c :: before, by rw [text_eq, List.cons_append], by rw [utf8Length_cons]; omega⟩
  · rintro ⟨before, rfl, rfl⟩
    simpa using dropBytes?_append before rest 0

theorem takeBytes?_eq_some_iff {text front : Text} {byte : Nat} :
    text.takeBytes? byte = some front ↔ front <+: text ∧ byte = front.utf8Length := by
  constructor
  · intro taken
    fun_induction takeBytes? text byte generalizing front with
    | case1 =>
      obtain rfl := Option.some.inj taken
      exact ⟨List.nil_prefix, rfl⟩
    | case2 => cases taken
    | case3 => cases taken
    | case4 c rest byte whole ih =>
      obtain ⟨inner, innerTaken, rfl⟩ := Option.map_eq_some_iff.1 taken
      obtain ⟨isPrefix, byte_eq⟩ := ih innerTaken
      exact ⟨(List.prefix_cons_inj c).2 isPrefix, by rw [utf8Length_cons]; omega⟩
  · rintro ⟨⟨rest, rfl⟩, rfl⟩
    simpa using takeBytes?_append front rest 0

theorem infix_of_slice? {text piece : Text} {start stop : Nat}
    (cut : text.slice? start stop = some piece) : piece <:+: text := by
  unfold slice? at cut
  split at cut
  next => cases cut
  next =>
    obtain ⟨rest, dropped, taken⟩ := Option.bind_eq_some_iff.1 cut
    obtain ⟨before, rfl, -⟩ := dropBytes?_eq_some_iff.1 dropped
    obtain ⟨isPrefix, -⟩ := takeBytes?_eq_some_iff.1 taken
    exact isPrefix.isInfix.trans (List.suffix_append before rest).isInfix

/-! ## Containment -/

theorem includes_iff (text needle : Text) : text.includes needle = true ↔ needle <:+: text := by
  induction text with
  | nil => rw [includes, List.isEmpty_iff, List.infix_nil]
  | cons c rest ih =>
    rw [includes, Bool.or_eq_true, List.isPrefixOf_iff_prefix, ih, List.infix_cons_iff]

end Text

end GotoDefinition
