import GotoDefinition.Proofs.Text.Units
import GotoDefinition.Text.Utf8

/-!
# Characters and bytes

How a code point is written in UTF-8 (`Encoded`), and what follows from it for whole texts: their
bytes are ordered as their code points are (`utf8Bytes_lt`), a byte below 128 is a character of
its own, and places between characters can be told from the bytes.
-/

namespace GotoDefinition.Text

/-! ## Texts -/

theorem utf8Bytes_append (left right : Text) :
    utf8Bytes (left ++ right) = utf8Bytes left ++ utf8Bytes right :=
  List.flatMap_append

theorem utf8Bytes_cons_of_ascii {c : Char} (ascii : c.toNat < 128) (rest : Text) :
    utf8Bytes (c :: rest) = UInt8.ofNat c.toNat :: rest.utf8Bytes := by
  have encoded : String.utf8EncodeChar c = [UInt8.ofNat c.toNat] := by
    simp only [String.utf8EncodeChar]
    exact if_pos (Nat.le_of_lt_succ ascii)
  rw [utf8Bytes, List.flatMap_cons, encoded]
  rfl

theorem length_utf8Bytes (text : Text) : text.utf8Bytes.length = text.utf8Length := by
  induction text with
  | nil => rfl
  | cons c rest ih =>
    rw [utf8Bytes, List.flatMap_cons, List.length_append, String.length_utf8EncodeChar,
      utf8Length_cons]
    exact congrArg _ ih

theorem utf8Bytes_of_ofUtf8? {bytes : Bytes} {text : Text} (isText : ofUtf8? bytes = some text) :
    text.utf8Bytes = bytes := by
  obtain ⟨string, read, rfl⟩ := Option.map_eq_some_iff.1 isText
  unfold String.fromUTF8? at read
  split at read
  next valid =>
    obtain rfl := Option.some.inj read
    have encoded : List.utf8Encode (String.fromUTF8 ⟨bytes.toArray⟩ valid).toList =
        ⟨bytes.toArray⟩ := String.utf8Encode_toList
    have sameData := congrArg ByteArray.data encoded
    rw [List.utf8Encode, List.data_toByteArray] at sameData
    exact List.toArray_inj sameData
  next => cases read

/-! ## One character -/

/-- The byte that carries the last digit of a number in base 64. -/
def trailByte (n : Nat) : UInt8 :=
  UInt8.ofNat (n % 64 + 128)

/-- How a code point is written in UTF-8: a first byte that tells how many follow, and the digits
in base 64 that are left over. -/
inductive Encoded (n : Nat) : Bytes → Prop where
  | one (high : n < 0x80) : Encoded n [UInt8.ofNat n]
  | two (low : 0x80 ≤ n) (high : n < 0x800) : Encoded n [UInt8.ofNat (n / 64 + 0xC0), trailByte n]
  | three (low : 0x800 ≤ n) (high : n < 0x10000) :
    Encoded n [UInt8.ofNat (n / 64 / 64 + 0xE0), trailByte (n / 64), trailByte n]
  | four (low : 0x10000 ≤ n) (high : n < 0x110000) :
    Encoded n [UInt8.ofNat (n / 64 / 64 / 64 + 0xF0), trailByte (n / 64 / 64), trailByte (n / 64),
      trailByte n]

theorem encoded_utf8EncodeChar (c : Char) : Encoded c.val.toNat (String.utf8EncodeChar c) := by
  have bounded : c.val.toNat < 0x110000 := by
    rcases c.valid with low | ⟨-, high⟩
    · exact Nat.lt_trans low (by decide)
    · exact high
  -- The remainders that the encoder takes of the first digits change nothing within their range.
  fun_cases String.utf8EncodeChar c with
  | case1 v high => exact .one (Nat.lt_succ_of_le high)
  | case2 v low high =>
    have first : v / 64 % 32 = v / 64 := by omega
    rw [first]
    exact .two (by omega) (by omega)
  | case3 v low lower high =>
    have first : v / 4096 % 16 = v / 64 / 64 := by omega
    rw [first]
    exact .three (by omega) (by omega)
  | case4 v low lower lowest =>
    have first : v / 262144 % 8 = v / 64 / 64 / 64 := by omega
    have second : v / 4096 = v / 64 / 64 := by omega
    rw [first, second]
    exact .four (by omega) (by omega)

theorem utf16Size_le_utf8Size (c : Char) : utf16Size c ≤ c.utf8Size := by
  have written := encoded_utf8EncodeChar c
  have code_eq : c.val.toNat = c.toNat := rfl
  rw [← String.length_utf8EncodeChar, utf16Size]
  generalize String.utf8EncodeChar c = bytes at written ⊢
  cases written with
  | one | two | three => rw [if_pos (by omega)]; exact Nat.le_add_left _ _
  | four => rw [if_neg (by omega)]; exact Nat.le_add_left _ _

theorem utf16Length_le_utf8Length (text : Text) : text.utf16Length ≤ text.utf8Length := by
  induction text with
  | nil => exact Nat.le_refl 0
  | cons c rest ih => exact Nat.add_le_add (utf16Size_le_utf8Size c) ih

/-- Whether a byte goes on with a character that began ahead of it. -/
def isContinuation (byte : UInt8) : Bool :=
  0x80 ≤ byte.toNat && byte.toNat < 0xC0

theorem isContinuation_trailByte (n : Nat) : isContinuation (trailByte n) = true := by
  have code_eq : (trailByte n).toNat = n % 64 + 128 :=
    UInt8.toNat_ofNat_of_lt' (show n % 64 + 128 < 256 by omega)
  simp only [isContinuation, code_eq, Bool.and_eq_true, decide_eq_true_eq]
  omega

/-- The bytes of one character: only the first one goes on with nothing, and if it is below 128
then it is the code point. -/
structure IsCharacter (n : Nat) (first : UInt8) (trail : Bytes) : Prop where
  begins : isContinuation first = false
  goesOn : ∀ byte ∈ trail, isContinuation byte = true
  alone : first.toNat < 0x80 → trail = [] ∧ first.toNat = n

theorem IsCharacter.of_lead {n lead : Nat} {trail : Bytes} (low : 0xC0 ≤ lead) (high : lead < 256)
    (goesOn : ∀ byte ∈ trail, isContinuation byte = true) :
    IsCharacter n (UInt8.ofNat lead) trail := by
  have code_eq : (UInt8.ofNat lead).toNat = lead := UInt8.toNat_ofNat_of_lt' high
  refine ⟨?_, goesOn, fun ascii => by omega⟩
  simp only [isContinuation, code_eq, Bool.and_eq_false_iff, decide_eq_false_iff_not]
  omega

theorem Encoded.exists_cons {n : Nat} {bytes : Bytes} (written : Encoded n bytes) :
    ∃ first trail, bytes = first :: trail ∧ IsCharacter n first trail := by
  refine ⟨bytes.head ?_, bytes.tail, (List.cons_head_tail _).symm, ?_⟩
  · cases written <;> exact List.cons_ne_nil _ _
  cases written with
  | one high =>
    have code_eq : (UInt8.ofNat n).toNat = n :=
      UInt8.toNat_ofNat_of_lt' (show n < 256 by omega)
    refine ⟨?_, by simp, fun _ => ⟨rfl, code_eq⟩⟩
    simp only [List.head_cons, isContinuation, code_eq, Bool.and_eq_false_iff,
      decide_eq_false_iff_not]
    omega
  | two | three | four =>
    exact .of_lead (by omega) (by omega) (by simp [isContinuation_trailByte])

theorem exists_isCharacter (c : Char) :
    ∃ first trail, String.utf8EncodeChar c = first :: trail ∧ IsCharacter c.toNat first trail :=
  (encoded_utf8EncodeChar c).exists_cons

/-- A byte below 128 is a character of its own. -/
theorem eq_singleton_of_ascii_mem {c : Char} {byte : UInt8}
    (member : byte ∈ String.utf8EncodeChar c) (ascii : byte.toNat < 0x80) :
    String.utf8EncodeChar c = [byte] ∧ byte.toNat = c.toNat := by
  obtain ⟨first, trail, encoded, isCharacter⟩ := exists_isCharacter c
  rw [encoded] at member ⊢
  rcases List.mem_cons.1 member with rfl | later
  · obtain ⟨rfl, code_eq⟩ := isCharacter.alone ascii
    exact ⟨rfl, code_eq⟩
  · have goesOn := isCharacter.goesOn byte later
    simp only [isContinuation, Bool.and_eq_true, decide_eq_true_eq] at goesOn
    omega

/-! ## Order -/

theorem cons_ofNat_lt {m n : Nat} {front rest : Bytes} (order : m < n ∨ m = n ∧ front < rest)
    (small : n < 256) : UInt8.ofNat m :: front < UInt8.ofNat n :: rest := by
  have smaller : m < UInt8.size := by
    change m < 256
    omega
  rw [List.cons_lt_cons_iff, UInt8.lt_iff_toNat_lt, ← UInt8.toNat_inj,
    UInt8.toNat_ofNat_of_lt' smaller, UInt8.toNat_ofNat_of_lt' small]
  exact order

theorem cons_ofNat_add_lt {m n extra : Nat} {front rest : Bytes}
    (order : m < n ∨ m = n ∧ front < rest) (small : n + extra < 256) :
    UInt8.ofNat (m + extra) :: front < UInt8.ofNat (n + extra) :: rest :=
  cons_ofNat_lt (by simpa using order) small

theorem trailByte_lt {m n : Nat} {front rest : Bytes} (order : m < n ∨ m = n ∧ front < rest) :
    m / 64 < n / 64 ∨ m / 64 = n / 64 ∧ trailByte m :: front < trailByte n :: rest := by
  by_cases higher : m / 64 < n / 64
  · exact .inl higher
  · refine .inr ⟨by omega, cons_ofNat_add_lt ?_ (by omega)⟩
    rcases order with less | ⟨rfl, behind⟩
    · exact .inl (by omega)
    · exact .inr ⟨rfl, behind⟩

theorem Encoded.append_lt {m n : Nat} {bytes others : Bytes} (written : Encoded m bytes)
    (laterWritten : Encoded n others) (order : m < n) (front rest : Bytes) :
    bytes ++ front < others ++ rest := by
  have one : m < n ∨ m = n ∧ front < rest := .inl order
  cases written with
  | one =>
    cases laterWritten with
    | one => exact cons_ofNat_lt one (by omega)
    | two | three | four => exact cons_ofNat_lt (.inl (by omega)) (by omega)
  | two =>
    cases laterWritten with
    | one => omega
    | two => exact cons_ofNat_add_lt (trailByte_lt one) (by omega)
    | three | four => exact cons_ofNat_lt (.inl (by omega)) (by omega)
  | three =>
    cases laterWritten with
    | one | two => omega
    | three => exact cons_ofNat_add_lt (trailByte_lt (trailByte_lt one)) (by omega)
    | four => exact cons_ofNat_lt (.inl (by omega)) (by omega)
  | four =>
    cases laterWritten with
    | one | two | three => omega
    | four => exact cons_ofNat_add_lt (trailByte_lt (trailByte_lt (trailByte_lt one))) (by omega)

/-- The order of texts by their code points is the order of their bytes. -/
theorem utf8Bytes_lt {text other : Text} (before : text < other) :
    text.utf8Bytes < other.utf8Bytes := by
  induction text generalizing other with
  | nil =>
    cases other with
    | nil => exact absurd before (List.lt_irrefl [])
    | cons d other =>
      obtain ⟨byte, bytes, encoded⟩ := List.exists_cons_of_ne_nil
        (String.utf8EncodeChar_ne_nil (c := d))
      rw [utf8Bytes, utf8Bytes, List.flatMap_cons, encoded]
      exact List.nil_lt_cons _ _
  | cons c text ih =>
    cases other with
    | nil => exact absurd before (List.not_lt_nil _)
    | cons d other =>
      rw [utf8Bytes, utf8Bytes, List.flatMap_cons, List.flatMap_cons]
      rcases List.cons_lt_cons_iff.1 before with first | ⟨rfl, later⟩
      · exact (encoded_utf8EncodeChar c).append_lt (encoded_utf8EncodeChar d) first _ _
      · exact List.append_left_lt (ih later)

end GotoDefinition.Text
