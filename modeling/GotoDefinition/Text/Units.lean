/-!
# Texts and their two length measures

A document is a list of characters.  Editors count columns in UTF-16 units and
matching works on UTF-8 byte offsets, so both lengths are measures on the same
list, and the two conversions between a column and a byte offset walk over it
once.  A byte offset is usable only where a character begins or the text ends;
the partial functions below answer `none` anywhere else.
-/

namespace GotoDefinition

/-- The characters of a text in order. -/
abbrev Text := List Char

/-- The number of UTF-16 units a character takes: two outside the basic plane. -/
def utf16Size (c : Char) : Nat :=
  if c.toNat < 0x10000 then 1 else 2

namespace Text

/-! ## Measures -/

/-- The length of a text in UTF-8 bytes. -/
def utf8Length : Text → Nat
  | [] => 0
  | c :: rest => c.utf8Size + utf8Length rest

/-- The length of a text in UTF-16 units. -/
def utf16Length : Text → Nat
  | [] => 0
  | c :: rest => utf16Size c + utf16Length rest

/-! ## Columns and byte offsets -/

/-- The byte offset of a UTF-16 column.  A column past the end is the end of the
line, and one inside a surrogate pair is the end of that pair. -/
def byteOfColumn : Text → Nat → Nat
  | [], _ => 0
  | _ :: _, 0 => 0
  | c :: rest, column + 1 => c.utf8Size + byteOfColumn rest (column + 1 - utf16Size c)

/-- The UTF-16 column of a byte offset.  An offset past the end is the end of the
line; an offset inside a character has no column. -/
def columnOfByte? : Text → Nat → Option Nat
  | [], _ => some 0
  | _ :: _, 0 => some 0
  | c :: rest, byte + 1 =>
    if byte + 1 < c.utf8Size then none
    else (columnOfByte? rest (byte + 1 - c.utf8Size)).map (utf16Size c + ·)

/-! ## Slices at byte offsets -/

/-- The part of a text from a byte offset on. -/
def dropBytes? : Text → Nat → Option Text
  | text, 0 => some text
  | [], _ + 1 => none
  | c :: rest, byte + 1 =>
    if byte + 1 < c.utf8Size then none else dropBytes? rest (byte + 1 - c.utf8Size)

/-- The part of a text before a byte offset. -/
def takeBytes? : Text → Nat → Option Text
  | _, 0 => some []
  | [], _ + 1 => none
  | c :: rest, byte + 1 =>
    if byte + 1 < c.utf8Size then none
    else (takeBytes? rest (byte + 1 - c.utf8Size)).map (c :: ·)

/-- The part of a text between two byte offsets, each of them at a character boundary. -/
def slice? (text : Text) (start stop : Nat) : Option Text :=
  if stop < start then none else (text.dropBytes? start).bind (takeBytes? · (stop - start))

/-! ## Containment and division -/

/-- Whether `needle` occurs in a text as a block of consecutive characters. -/
def includes : Text → Text → Bool
  | [], needle => needle.isEmpty
  | c :: rest, needle => needle.isPrefixOf (c :: rest) || includes rest needle

/-- The pieces of a text between the characters that `isSeparator` selects. -/
def splitWhere (isSeparator : Char → Bool) : Text → List Text
  | [] => [[]]
  | c :: rest =>
    if isSeparator c then [] :: splitWhere isSeparator rest
    else
      match splitWhere isSeparator rest with
      | [] => [[c]]
      | piece :: pieces => (c :: piece) :: pieces

/-- The pieces put one after the other with `separator` between them. -/
def joinWith (separator : Text) : List Text → Text
  | [] => []
  | [piece] => piece
  | piece :: pieces => piece ++ separator ++ joinWith separator pieces

/-- The decimal digits of a number. -/
def ofNat (n : Nat) : Text :=
  Nat.toDigits 10 n

end Text

end GotoDefinition
