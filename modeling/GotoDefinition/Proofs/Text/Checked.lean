import GotoDefinition.Declaration
import GotoDefinition.Proofs.Text.Columns
import GotoDefinition.Proofs.Text.Utf8
import GotoDefinition.Resolver
import Mathlib.Data.List.Basic

/-!
# What can go wrong with a text

Lines, words and positions are found with byte offsets: the bytes are searched for line breaks,
texts are cut at offsets, and offsets and columns are added and subtracted.  Each of these steps
can fail, and a failed step would stop everything.  Here the computations of `Text` are written
out with the failures of their steps, under the names they have there.
-/

namespace GotoDefinition

/-- What can stop a computation on texts. -/
inductive Fault where
  /-- A text is cut out of its range or inside a character. -/
  | slice
  /-- A list is asked for an element that it does not have. -/
  | index
  /-- A sum does not fit into 32 bits. -/
  | overflow
  /-- A difference is negative. -/
  | underflow
deriving DecidableEq, Repr

/-- A computation that a fault may stop. -/
abbrev Checked := Except Fault

/-- The numbers of 32 bits are those below. -/
def limit32 : Nat :=
  0x100000000

/-- A text is short enough for its offsets to be numbers of 32 bits. -/
def Text.Fits (text : Text) : Prop :=
  text.utf8Length < limit32

instance (text : Text) : Decidable text.Fits :=
  inferInstanceAs (Decidable (_ < _))

theorem Text.Fits.of_piece {text piece : Text} (fits : text.Fits) (isInfix : piece <:+: text) :
    piece.Fits := by
  obtain ⟨before, after, rfl⟩ := isInfix
  unfold Fits at *
  rw [utf8Length_append, utf8Length_append] at fits
  omega

namespace Checked

/-! ## Steps that may fail -/

/-- A piece of a text that has to be there. -/
def cut {α : Type} : Option α → Checked α
  | some piece => .ok piece
  | none => .error .slice

def sliceFrom (text : Text) (start : Nat) : Checked Text :=
  cut (text.dropBytes? start)

def sliceTo (text : Text) (stop : Nat) : Checked Text :=
  cut (text.takeBytes? stop)

def slice (text : Text) (span : Span) : Checked Text :=
  cut (text.slice? span.start span.stop)

def bytesFrom (bytes : Bytes) (start : Nat) : Checked Bytes :=
  if start ≤ bytes.length then .ok (bytes.drop start) else .error .slice

def element (list : List Nat) (place : Nat) : Checked Nat :=
  match list[place]? with
  | some value => .ok value
  | none => .error .index

def add (m n : Nat) : Checked Nat :=
  if m + n < limit32 then .ok (m + n) else .error .overflow

def subtract (m n : Nat) : Checked Nat :=
  if n ≤ m then .ok (m - n) else .error .underflow

/-! ## Lines -/

/-- Whether a byte is a line feed or a carriage return. -/
def isBreakByte (byte : UInt8) : Bool :=
  byte == 0x0A || byte == 0x0D

/-- Whether bytes begin with a carriage return and a line feed. -/
def beginsWithBoth (bytes : Bytes) : Bool :=
  [0x0D, 0x0A].isPrefixOf bytes

/-- One break after the other is searched for and cut off. -/
def lineAt : Text → Nat → Checked (Option Text)
  | rest, 0 => do
    let bytes := rest.utf8Bytes
    some <$> sliceTo rest ((bytes.findIdx? isBreakByte).getD bytes.length)
  | rest, n + 1 => do
    let bytes := rest.utf8Bytes
    match bytes.findIdx? isBreakByte with
    | none => return none
    | some stop =>
      let behind ← bytesFrom bytes stop
      let next ← add stop (if beginsWithBoth behind then 2 else 1)
      lineAt (← sliceFrom rest next) n

/-- The start of a line behind a break byte, none if the break goes on there. -/
def startBehind (bytes : Bytes) (place : Nat) : Checked (Option Nat) := do
  if beginsWithBoth (← bytesFrom bytes place) then return none
  some <$> add place 1

def lineStarts (content : Text) : Checked (List Nat) := do
  let bytes := content.utf8Bytes
  return 0 :: (← (bytes.findIdxs isBreakByte).filterMapM (startBehind bytes))

/-! ## Columns and offsets -/

/-- The units of the characters ahead of the offset are counted. -/
def columnOfByte (line : Text) (byte : Nat) : Checked Nat := do
  let front ← sliceTo line (min byte line.utf8Length)
  front.foldlM (fun units c => add units (utf16Size c)) 0

/-- Go on from a place of the given column and byte offset until a column is reached. -/
def byteOfColumnFrom (column units byte : Nat) : Text → Checked Nat
  | [] => .ok byte
  | c :: rest =>
    if column ≤ units then .ok byte
    else do byteOfColumnFrom column (← add units (utf16Size c)) (byte + c.utf8Size) rest

def byteOfColumn (line : Text) (column : Nat) : Checked Nat :=
  byteOfColumnFrom column 0 0 line

/-! ## Positions -/

/-- How many elements come first that `isFront` holds of, by halving the range where the answer
lies. -/
def partitionPoint (isFront : Nat → Bool) (list : List Nat) (low high : Nat) : Nat :=
  if low < high then
    let middle := (low + high) / 2
    if list[middle]?.any isFront then partitionPoint isFront list (middle + 1) high
    else partitionPoint isFront list low middle
  else low
termination_by high - low
decreasing_by all_goals omega

/-- The line is looked up by halving, and its number is cut off at 32 bits. -/
def positionAt (starts : List Nat) (content : Text) (offset : Nat) : Checked Position := do
  let line ← subtract (partitionPoint (· ≤ offset) starts 0 starts.length) 1
  let start ← element starts line
  let behind ← sliceFrom content start
  let character ← columnOfByte behind (← subtract offset start)
  return { line := line % limit32, character }

/-! ## Words and symbols -/

def word (line : Text) (span : Span) : Checked Word := do
  let text ← slice line span
  let start ← columnOfByte line span.start
  let stop ← columnOfByte line span.stop
  return { text, start, stop }

def wordAmong (line : Text) (column : Nat) (spans : List Span) : Checked (Option Word) := do
  match spanAt? spans (← byteOfColumn line column) with
  | none => return none
  | some span => some <$> word line span

def wordAt (line : Text) (column : Nat) : Checked (Option Word) :=
  wordAmong line column (defaultWordPattern.spans line)

def originRange (compiler : PatternCompiler) (line : Text) (position : Position) (name : Text) :
    Checked (Option Range) :=
  match compiler.literal? name with
  | none => return none
  | some pattern => do
    let found ← wordAmong line position.character (pattern.spans line)
    return found.map (·.toRange position.line)

def symbol (uri : Uri) (content : Text) (starts : List Nat) (declaration : Declaration) :
    Checked Symbol := do
  let name ← slice content declaration.name
  let start ← positionAt starts content declaration.name.start
  let stop ← positionAt starts content declaration.name.stop
  return { name, kind := declaration.keyword.kind, uri, range := { start, stop } }

def symbols (uri : Uri) (content : Text) : Checked (List Symbol) := do
  let starts ← lineStarts content
  content.declarations.mapM (symbol uri content starts)

/-! ## Computing with steps -/

@[simp] theorem ok_bind {α β : Type} (value : α) (next : α → Checked β) :
    (Except.ok value : Checked α) >>= next = next value := rfl

@[simp] theorem map_ok {α β : Type} (f : α → β) (value : α) :
    f <$> (Except.ok value : Checked α) = .ok (f value) := rfl

@[simp] theorem pure_eq {α : Type} (value : α) : (pure value : Checked α) = .ok value := rfl

@[simp] theorem cut_some {α : Type} (piece : α) : cut (some piece) = .ok piece := rfl

theorem cut_eq_ok_iff {α : Type} {piece : Option α} {value : α} :
    cut piece = .ok value ↔ piece = some value := by
  cases piece <;> simp [cut]

theorem cut_eq_error_iff {α : Type} {piece : Option α} {fault : Fault} :
    cut piece = .error fault ↔ fault = .slice ∧ piece = none := by
  cases piece <;> simp [cut, eq_comm]

theorem add_of_lt {m n : Nat} (small : m + n < limit32) : add m n = .ok (m + n) :=
  if_pos small

theorem subtract_of_le {m n : Nat} (notLarger : n ≤ m) : subtract m n = .ok (m - n) :=
  if_pos notLarger

@[simp] theorem sliceTo_utf8Length (before after : Text) :
    sliceTo (before ++ after) before.utf8Length = .ok before := by
  rw [sliceTo, Text.takeBytes?_eq_some_iff.2 ⟨List.prefix_append before after, rfl⟩, cut_some]

@[simp] theorem sliceFrom_utf8Length (before after : Text) :
    sliceFrom (before ++ after) before.utf8Length = .ok after := by
  rw [sliceFrom, Text.dropBytes?_eq_some_iff.2 ⟨before, rfl, rfl⟩, cut_some]

@[simp] theorem bytesFrom_length (front back : Bytes) :
    bytesFrom (front ++ back) front.length = .ok back := by
  simp [bytesFrom]

/-! ## Cuts among the bytes -/

/-- Whether an offset into the bytes of a text is in range and not ahead of a byte that goes on
with a character. -/
def isCharBoundary (bytes : Bytes) (offset : Nat) : Bool :=
  match bytes[offset]? with
  | some byte => !Text.isContinuation byte
  | none => offset == bytes.length

theorem isCharBoundary_append (front back : Bytes) (offset : Nat) :
    isCharBoundary (front ++ back) (front.length + offset) = isCharBoundary back offset := by
  have behind : (front ++ back)[front.length + offset]? = back[offset]? := by
    rw [List.getElem?_append_right (Nat.le_add_right _ _), Nat.add_sub_cancel_left]
  rw [isCharBoundary, isCharBoundary, behind, List.length_append]
  cases back[offset]? <;> simp

/-- The boundaries of a text can be told from its bytes. -/
theorem isCharBoundary_iff (text : Text) (offset : Nat) :
    isCharBoundary text.utf8Bytes offset = true ↔ text.IsBoundary offset := by
  induction text generalizing offset with
  | nil => simp [isCharBoundary, Text.utf8Bytes, Text.IsBoundary]
  | cons c rest ih =>
    obtain ⟨first, trail, encoded, isCharacter⟩ := Text.exists_isCharacter c
    have width : (first :: trail).length = c.utf8Size := by
      rw [← encoded, String.length_utf8EncodeChar]
    have bytes_eq : Text.utf8Bytes (c :: rest) = (first :: trail) ++ Text.utf8Bytes rest := by
      rw [Text.utf8Bytes, List.flatMap_cons, encoded]
      rfl
    rw [Text.isBoundary_cons_iff, bytes_eq]
    rcases Nat.lt_or_ge offset c.utf8Size with inside | beyond
    · -- Within the first character only its first byte goes on with nothing.
      have notBeyond : ¬ ∃ further, Text.IsBoundary rest further ∧
          offset = c.utf8Size + further := by
        rintro ⟨further, -, rfl⟩
        omega
      rw [isCharBoundary, List.getElem?_append_left (by omega)]
      cases offset with
      | zero => simp [isCharacter.begins]
      | succ place =>
        have inTrail : place < trail.length := by
          rw [List.length_cons] at width
          omega
        have goesOn := isCharacter.goesOn _ (List.getElem_mem inTrail)
        simp only [List.getElem?_cons_succ, List.getElem?_eq_getElem inTrail, goesOn]
        simp [notBeyond]
    · obtain ⟨further, rfl⟩ := Nat.exists_eq_add_of_le beyond
      have positive := c.utf8Size_pos
      rw [← width, isCharBoundary_append, ih, width]
      constructor
      · exact fun isBoundary => .inr ⟨further, isBoundary, rfl⟩
      · rintro (atStart | ⟨other, isBoundary, same⟩)
        · omega
        · rwa [Nat.add_left_cancel same]

theorem exists_sliceFrom_iff (text : Text) (start : Nat) :
    (∃ rest, sliceFrom text start = .ok rest) ↔ isCharBoundary text.utf8Bytes start = true := by
  simp only [sliceFrom, cut_eq_ok_iff, Text.dropBytes?_eq_some_iff, isCharBoundary_iff]
  constructor
  · rintro ⟨rest, before, rfl, rfl⟩
    exact ⟨before, List.prefix_append before rest, rfl⟩
  · rintro ⟨before, ⟨rest, rfl⟩, rfl⟩
    exact ⟨rest, before, rfl, rfl⟩

theorem exists_sliceTo_iff (text : Text) (stop : Nat) :
    (∃ front, sliceTo text stop = .ok front) ↔ isCharBoundary text.utf8Bytes stop = true := by
  simp only [sliceTo, cut_eq_ok_iff, Text.takeBytes?_eq_some_iff, isCharBoundary_iff]
  rfl

end Checked

end GotoDefinition
