import GotoDefinition.Toml.Scalar

/-!
# Strings

A basic string knows escapes, a literal one does not; each may be written over several
lines between triple quotes.  A line end right behind the opening quotes does not count,
and in a basic string a backslash at the end of a line swallows the blanks up to the
next character.
-/

namespace GotoDefinition.Toml

/-- Whether a character may stand in a string or a comment: no control but the tab. -/
def isPlain (c : Char) : Bool :=
  c == '\t' || (0x20 ≤ c.toNat && c.toNat != 0x7F)

/-- Whether a character is a space or a tab. -/
def isGap (c : Char) : Bool :=
  c == ' ' || c == '\t'

/-- The character with a code point, if there is one. -/
def character? (code : Nat) : Option Char :=
  if code < 0xD800 || (0xDFFF < code && code < 0x110000) then some (Char.ofNat code) else none

/-- The character that so many hexadecimal digits at the front of a text stand for. -/
def hexEscape? (count : Nat) : Reader Char := fun text => do
  let digits := text.take count
  if digits.length != count || !digits.all (fun c => (digitValue? c).isSome) then none
  let c ← character? (numberInBase 16 digits)
  return (c, text.drop count)

/-- The character of an escape behind its backslash. -/
def escape? : Reader Char
  | 'b' :: rest => some ('\x08', rest)
  | 't' :: rest => some ('\t', rest)
  | 'n' :: rest => some ('\n', rest)
  | 'f' :: rest => some ('\x0c', rest)
  | 'r' :: rest => some ('\r', rest)
  | 'e' :: rest => some ('\x1b', rest)
  | '"' :: rest => some ('"', rest)
  | '\\' :: rest => some ('\\', rest)
  | 'x' :: rest => hexEscape? 2 rest
  | 'u' :: rest => hexEscape? 4 rest
  | 'U' :: rest => hexEscape? 8 rest
  | _ => none

/-- The rest of a string on one line up to its closing quote; `done` holds what was
read, last first, and `fuel` bounds the characters. -/
def lineString? (quote : Char) (escapes : Bool) : Nat → Text → Reader Text
  | 0, _, _ => none
  | _ + 1, _, [] => none
  | fuel + 1, done, c :: rest => do
    if c == quote then some (done.reverse, rest)
    else if escapes && c == '\\' then
      let (character, rest) ← escape? rest
      lineString? quote escapes fuel (character :: done) rest
    else if isPlain c then lineString? quote escapes fuel (c :: done) rest
    else none

/-- The text behind a line end at its front. -/
def afterLineEnd? : Text → Option Text
  | '\n' :: rest => some rest
  | '\r' :: '\n' :: rest => some rest
  | _ => none

/-- Whether blanks lead to the end of the line. -/
def onlyGapBeforeLineEnd (text : Text) : Bool :=
  (afterLineEnd? (text.dropWhile isGap)).isSome

/-- A text without the blanks and line ends in front. -/
def skipGapsAndLineEnds : Text → Text
  | '\r' :: '\n' :: rest => skipGapsAndLineEnds rest
  | c :: rest => if isGap c || c == '\n' then skipGapsAndLineEnds rest else c :: rest
  | [] => []

/-- The rest of a string over several lines up to its closing quotes. -/
def blockString? (quote : Char) (escapes : Bool) : Nat → Text → Reader Text
  | 0, _, _ => none
  | _ + 1, _, [] => none
  | fuel + 1, done, c :: rest => do
    if c == quote && [quote, quote].isPrefixOf rest then
      -- Up to two further quotes still belong to the text.
      let extra := (rest.drop 2).takeWhile (· == quote) |>.take 2
      some ((extra ++ done).reverse, rest.drop (2 + extra.length))
    else if escapes && c == '\\' then
      if onlyGapBeforeLineEnd rest then
        blockString? quote escapes fuel done (skipGapsAndLineEnds rest)
      else
        let (character, rest) ← escape? rest
        blockString? quote escapes fuel (character :: done) rest
    else if c == '\n' then blockString? quote escapes fuel (c :: done) rest
    else if c == '\r' && rest.head? == some '\n' then
      blockString? quote escapes fuel (c :: done) rest
    else if isPlain c then blockString? quote escapes fuel (c :: done) rest
    else none

/-- A string on one line, behind its opening quote. -/
def shortString? (quote : Char) : Reader Text := fun text =>
  lineString? quote (quote == '"') (text.length + 1) [] text

/-- A string at the front of a text, in any of its forms. -/
def string? : Reader Text
  | [] => none
  | quote :: rest =>
    if quote != '"' && quote != '\x27' then none
    else if [quote, quote].isPrefixOf rest then
      let body := rest.drop 2
      let body := (afterLineEnd? body).getD body
      blockString? quote (quote == '"') (body.length + 1) [] body
    else shortString? quote rest

end GotoDefinition.Toml
