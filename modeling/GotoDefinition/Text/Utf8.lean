import GotoDefinition.Text.Units

/-!
# Texts as bytes

Files and paths are bytes.  A file is a text only if its bytes are well-formed
UTF-8; a path is shown with the replacement character in place of each ill-formed
piece.
-/

namespace GotoDefinition

/-- A sequence of bytes. -/
abbrev Bytes := List UInt8

namespace Text

/-- The UTF-8 bytes of a text. -/
def utf8Bytes (text : Text) : Bytes :=
  text.flatMap String.utf8EncodeChar

/-- The text that bytes spell in UTF-8, if they spell one. -/
def ofUtf8? (bytes : Bytes) : Option Text :=
  (String.fromUTF8? ⟨bytes.toArray⟩).map String.toList

/-! ## Showing ill-formed bytes -/

/-- The ranges of the bytes that must follow a lead byte, none for a byte that
cannot lead. -/
def trailRanges? (lead : Nat) : Option (List (Nat × Nat)) :=
  let any := (0x80, 0xBF)
  if lead < 0x80 then some []
  else if lead < 0xC2 then none
  else if lead < 0xE0 then some [any]
  else if lead = 0xE0 then some [(0xA0, 0xBF), any]
  else if lead = 0xED then some [(0x80, 0x9F), any]
  else if lead < 0xF0 then some [any, any]
  else if lead = 0xF0 then some [(0x90, 0xBF), any, any]
  else if lead < 0xF4 then some [any, any, any]
  else if lead = 0xF4 then some [(0x80, 0x8F), any, any]
  else none

/-- How many bytes from the front fit the ranges, one after the other. -/
def fittingTrail : List (Nat × Nat) → Bytes → Nat
  | (low, high) :: ranges, byte :: bytes =>
    if low ≤ byte.toNat ∧ byte.toNat ≤ high then fittingTrail ranges bytes + 1 else 0
  | _, _ => 0

/-- The bytes as a text, with one replacement character for each longest piece that
begins a character and does not complete it, and for each byte that begins none. -/
def ofUtf8Lossy : Bytes → Text
  | [] => []
  | lead :: rest =>
    match trailRanges? lead.toNat with
    | none => Char.ofNat 0xFFFD :: ofUtf8Lossy rest
    | some ranges =>
      let fitting := fittingTrail ranges rest
      let whole := if fitting = ranges.length then ofUtf8? (lead :: rest.take fitting) else none
      whole.getD [Char.ofNat 0xFFFD] ++ ofUtf8Lossy (rest.drop fitting)
termination_by bytes => bytes.length
decreasing_by
  · simp
  · simp only [List.length_drop, List.length_cons]; omega

end Text

end GotoDefinition
