import GotoDefinition.Decimal.Shortest
import GotoDefinition.Json.Basic

/-!
# Writing JSON

Values are written without blanks.  Inside a string the quote, the backslash and the
control characters of ASCII below the blank are escaped, and nothing else.
-/

namespace GotoDefinition.Json

/-- Numbers are written without an exponent up to sixteen digits before the point and
four zeros behind it. -/
def numberLayout : Decimal.Layout :=
  { mostDigits := 16, mostZeros := 4 }

/-- The lower-case hexadecimal digits of a number, at least four. -/
def hex4 (n : Nat) : Text :=
  let digits := Nat.toDigits 16 n
  List.replicate (4 - digits.length) '0' ++ digits

/-- A character inside a string. -/
def escaped (c : Char) : Text :=
  match c with
  | '"' => ['\\', '"']
  | '\\' => ['\\', '\\']
  | '\n' => ['\\', 'n']
  | '\r' => ['\\', 'r']
  | '\t' => ['\\', 't']
  | c =>
    if c.toNat = 0x08 then ['\\', 'b']
    else if c.toNat = 0x0C then ['\\', 'f']
    else if c.toNat < 0x20 then '\\' :: 'u' :: hex4 c.toNat
    else [c]

/-- A string between quotes. -/
def quoted (value : String) : Text :=
  '"' :: value.toList.flatMap escaped ++ ['"']

/-- An integer. -/
def integerText (n : Int) : Text :=
  if n < 0 then '-' :: Text.ofNat n.natAbs else Text.ofNat n.natAbs

mutual

/-- A value in its written form. -/
def render : Json → Text
  | .null => "null".toList
  | .bool true => "true".toList
  | .bool false => "false".toList
  | .integer value => integerText value
  | .float value => numberLayout.writeFloat value
  | .string value => quoted value
  | .array items => '[' :: renderItems items ++ [']']
  | .object members => '\x7b' :: renderMembers members ++ ['\x7d']

/-- Items with commas between them. -/
def renderItems : List Json → Text
  | [] => []
  | [item] => render item
  | item :: rest => render item ++ ',' :: renderItems rest

/-- Members with commas between them. -/
def renderMembers : List (String × Json) → Text
  | [] => []
  | [(key, value)] => quoted key ++ ':' :: render value
  | (key, value) :: rest => quoted key ++ ':' :: render value ++ ',' :: renderMembers rest

end

/-- A value as a string. -/
def compress (value : Json) : String :=
  String.ofList value.render

end GotoDefinition.Json
