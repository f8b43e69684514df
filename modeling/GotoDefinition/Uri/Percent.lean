import GotoDefinition.Text.Utf8

/-!
# Percent encoding

A byte is written as `%` and two upper-case hexadecimal digits.  Which ASCII
characters are written that way depends on the part of a URI they stand in; every
other character is always encoded, byte by byte.
-/

namespace GotoDefinition.Percent

/-- The upper-case hexadecimal digit of a number below sixteen. -/
def hexDigit (n : Nat) : Char :=
  if n < 10 then Char.ofNat (0x30 + n) else Char.ofNat (0x37 + n)

/-- The value of a hexadecimal digit of either case. -/
def hexValue? (code : Nat) : Option Nat :=
  if 0x30 ≤ code ∧ code ≤ 0x39 then some (code - 0x30)
  else if 0x41 ≤ code ∧ code ≤ 0x46 then some (code - 0x37)
  else if 0x61 ≤ code ∧ code ≤ 0x66 then some (code - 0x57)
  else none

/-- A byte in its encoded form. -/
def encodeByte (byte : UInt8) : Text :=
  ['%', hexDigit (byte.toNat / 16), hexDigit (byte.toNat % 16)]

/-- A byte that stays itself if it is an ASCII character outside `reserved`. -/
def encodeByteUnless (reserved : Char → Bool) (byte : UInt8) : Text :=
  let c := Char.ofNat byte.toNat
  if byte.toNat < 0x80 && !reserved c then [c] else encodeByte byte

/-- Bytes with every reserved one encoded. -/
def encodeBytes (reserved : Char → Bool) (bytes : Bytes) : Text :=
  bytes.flatMap (encodeByteUnless reserved)

/-- A text with every reserved or non-ASCII character encoded. -/
def encode (reserved : Char → Bool) (text : Text) : Text :=
  encodeBytes reserved text.utf8Bytes

/-- The bytes that remain when each `%` with two hexadecimal digits becomes the byte
it stands for. -/
def decode : Bytes → Bytes
  | [] => []
  | byte :: high :: low :: rest =>
    match byte == 0x25, hexValue? high.toNat, hexValue? low.toNat with
    | true, some h, some l => UInt8.ofNat (16 * h + l) :: decode rest
    | _, _, _ => byte :: decode (high :: low :: rest)
  | byte :: rest => byte :: decode rest

/-! ## Reserved characters by place -/

/-- Control characters. -/
def isControl (c : Char) : Bool :=
  c.toNat < 0x20 || c.toNat == 0x7F

/-- Reserved in a fragment. -/
def inFragment (c : Char) : Bool :=
  isControl c || [' ', '"', '<', '>', '\x60'].contains c

/-- Reserved in the query of a URI. -/
def inQuery (c : Char) : Bool :=
  isControl c || [' ', '"', '#', '<', '>'].contains c

/-- Reserved in the query of a URI with a special scheme. -/
def inSpecialQuery (c : Char) : Bool :=
  inQuery c || c == '\x27'

/-- Reserved in a path that is being parsed. -/
def inPath (c : Char) : Bool :=
  inFragment c || ['#', '?', '\x7b', '\x7d'].contains c

/-- Reserved in a file name that becomes one segment of a path. -/
def inSegment (c : Char) : Bool :=
  inPath c || ['/', '%', '\\'].contains c

/-- Reserved in the user name and password of a URI. -/
def inUserInfo (c : Char) : Bool :=
  inPath c || ['/', ':', ';', '=', '@', '[', '\\', ']', '^', '|'].contains c

end GotoDefinition.Percent
