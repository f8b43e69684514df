import GotoDefinition.Decimal.Scaled
import GotoDefinition.Json.Basic
import GotoDefinition.Uri.Percent

/-!
# Reading JSON

A reader takes a value off the front of a text and returns what follows it.  Values
nest at most 127 deep, so readers recurse on the depth that is left; within one
array or object they recurse on the text that is left.
-/

namespace GotoDefinition.Json

open Decimal (isDigit digitsValue Scaled)

/-! ## Blanks and strings -/

/-- Whether a character may stand between tokens. -/
def isSpace (c : Char) : Bool :=
  c == ' ' || c == '\t' || c == '\n' || c == '\r'

/-- The text without the blanks in front. -/
def skipSpace (text : Text) : Text :=
  text.dropWhile isSpace

/-- The number of four hexadecimal digits. -/
def hexFour? (a b c d : Char) : Option Nat := do
  let a ← Percent.hexValue? a.toNat
  let b ← Percent.hexValue? b.toNat
  let c ← Percent.hexValue? c.toNat
  let d ← Percent.hexValue? d.toNat
  return ((a * 16 + b) * 16 + c) * 16 + d

/-- The character of a single-letter escape. -/
def simpleEscape? : Char → Option Char
  | '"' => some '"'
  | '\\' => some '\\'
  | '/' => some '/'
  | 'b' => some '\x08'
  | 'f' => some '\x0c'
  | 'n' => some '\n'
  | 'r' => some '\r'
  | 't' => some '\t'
  | _ => none

/-- Whether a number is the first half of a surrogate pair. -/
def isHighSurrogate (n : Nat) : Bool :=
  0xD800 ≤ n && n < 0xDC00

/-- Whether a number is the second half of a surrogate pair. -/
def isLowSurrogate (n : Nat) : Bool :=
  0xDC00 ≤ n && n < 0xE000

/-- The rest of a string up to its closing quote; `done` holds what was read, last first. -/
def stringTail? (done : Text) : Text → Option (String × Text)
  | [] => none
  | '"' :: rest => some (String.ofList done.reverse, rest)
  | '\\' :: 'u' :: a :: b :: c :: d :: '\\' :: 'u' :: e :: f :: g :: h :: rest => do
    let high ← hexFour? a b c d
    if isHighSurrogate high then
      let low ← hexFour? e f g h
      if isLowSurrogate low then
        stringTail? (Char.ofNat (0x10000 + (high - 0xD800) * 0x400 + (low - 0xDC00)) :: done) rest
      else none
    else if isLowSurrogate high then none
    else stringTail? (Char.ofNat high :: done) ('\\' :: 'u' :: e :: f :: g :: h :: rest)
  | '\\' :: 'u' :: a :: b :: c :: d :: rest => do
    let code ← hexFour? a b c d
    if isHighSurrogate code || isLowSurrogate code then none
    else stringTail? (Char.ofNat code :: done) rest
  | '\\' :: c :: rest => do
    let character ← simpleEscape? c
    stringTail? (character :: done) rest
  | c :: rest => if c.toNat < 0x20 || c == '\\' then none else stringTail? (c :: done) rest

/-! ## Numbers -/

/-- The exponent at the front of a text: zero if there is none. -/
def exponent? (text : Text) : Option (Option Int × Text) :=
  match text with
  | mark :: rest =>
    if mark == 'e' || mark == 'E' then
      let (negative, rest) :=
        match rest with
        | '-' :: rest => (true, rest)
        | '+' :: rest => (false, rest)
        | rest => (false, rest)
      let digits := rest.takeWhile isDigit
      if digits.isEmpty then none
      else
        let value : Int := digitsValue digits
        some (some (if negative then -value else value), rest.dropWhile isDigit)
    else some (none, text)
  | [] => some (none, text)

/-- The fraction digits at the front of a text. -/
def fraction? (text : Text) : Option (Option Text × Text) :=
  match text with
  | '.' :: rest =>
    let digits := rest.takeWhile isDigit
    if digits.isEmpty then none else some (some digits, rest.dropWhile isDigit)
  | _ => some (none, text)

/-- A number.  Whole numbers that fit 64 bits stay integers; a negative zero and all
other numbers become floating-point numbers. -/
def number? (text : Text) : Option (Json × Text) := do
  let (negative, unsigned) :=
    match text with
    | '-' :: rest => (true, rest)
    | _ => (false, text)
  let whole := unsigned.takeWhile isDigit
  if whole.isEmpty || (whole.head? == some '0' && 1 < whole.length) then none
  let (fraction, afterFraction) ← fraction? (unsigned.dropWhile isDigit)
  let (exponent, rest) ← exponent? afterFraction
  let value := digitsValue whole
  let fits := if negative then 0 < value && value ≤ 0x8000000000000000 else value < 0x10000000000000000
  if fraction.isNone && exponent.isNone && fits then
    return (.integer (if negative then -value else value), rest)
  let magnitude ← (Scaled.ofDigits whole (fraction.getD []) (exponent.getD 0)).toFloat?
  return (.float (if negative then -magnitude else magnitude), rest)

/-! ## Values -/

/-- The rest of a text behind a word at its front. -/
def afterWord? (word : String) (text : Text) : Option Text :=
  if word.toList.isPrefixOf text then some (text.drop word.length) else none

/-- Items behind the opening bracket or a comma, read one after the other by `item?`;
`fuel` bounds their number. -/
def items? (item? : Text → Option (Json × Text)) : Nat → Text → Option (List Json × Text)
  | 0, _ => none
  | fuel + 1, text => do
    let (item, rest) ← item? text
    match skipSpace rest with
    | ',' :: rest =>
      let (items, rest) ← items? item? fuel rest
      return (item :: items, rest)
    | ']' :: rest => return ([item], rest)
    | _ => none

/-- Members behind the opening brace or a comma, their values read by `item?`. -/
def members? (item? : Text → Option (Json × Text)) :
    Nat → Text → Option (List (String × Json) × Text)
  | 0, _ => none
  | fuel + 1, text => do
    match skipSpace text with
    | '"' :: rest =>
      let (key, rest) ← stringTail? [] rest
      match skipSpace rest with
      | ':' :: rest =>
        let (value, rest) ← item? rest
        match skipSpace rest with
        | ',' :: rest =>
          let (members, rest) ← members? item? fuel rest
          return ((key, value) :: members, rest)
        | '\x7d' :: rest => return ([(key, value)], rest)
        | _ => none
      | _ => none
    | _ => none

/-- A value at the front of a text, with at most `depth` arrays and objects around each
other. -/
def value? : Nat → Text → Option (Json × Text)
  | 0, _ => none
  | depth + 1, text =>
    match skipSpace text with
    | '"' :: rest => (stringTail? [] rest).map fun (value, rest) => (.string value, rest)
    | '[' :: rest =>
      match skipSpace rest with
      | ']' :: rest => some (.array [], rest)
      | _ => (items? (value? depth) (rest.length + 1) rest).map fun (items, rest) =>
        (.array items, rest)
    | '\x7b' :: rest =>
      match skipSpace rest with
      | '\x7d' :: rest => some (.object [], rest)
      | _ => (members? (value? depth) (rest.length + 1) rest).map fun (members, rest) =>
        (ofMembers members, rest)
    | 'n' :: rest => (afterWord? "ull" rest).map fun rest => (.null, rest)
    | 't' :: rest => (afterWord? "rue" rest).map fun rest => (.bool true, rest)
    | 'f' :: rest => (afterWord? "alse" rest).map fun rest => (.bool false, rest)
    | other => number? other

/-- The value that a whole text spells. -/
def parse? (text : Text) : Option Json :=
  match value? 128 text with
  | some (value, rest) => if (skipSpace rest).isEmpty then some value else none
  | none => none

end GotoDefinition.Json
