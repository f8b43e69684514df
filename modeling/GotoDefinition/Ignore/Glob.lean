import GotoDefinition.Text.Utf8

/-!
# Globs

A glob is matched against the bytes of a relative path.  A star and a question mark
stand for bytes other than the slash, brackets for one byte of a class, a double star
between slashes for any number of directories, and braces for one of the globs that
commas divide between them.
-/

namespace GotoDefinition.Ignore

/-- A part of a glob. -/
inductive Token where
  /-- This character. -/
  | literal (c : Char)
  /-- One byte other than the slash. -/
  | any
  /-- Bytes other than the slash. -/
  | star
  /-- One byte inside, or outside, ranges of bytes. -/
  | byteClass (negated : Bool) (ranges : List (Nat × Nat))
  /-- A double star at the front: any directories above. -/
  | anyAbove
  /-- A double star between slashes: any directories between. -/
  | anyBetween
  /-- A double star at the end: everything below. -/
  | anyBelow
  /-- One of several globs, or nothing if there are none. -/
  | oneOf (branches : List (List Token))
deriving Repr

/-- A glob is the sequence of its parts. -/
abbrev Glob := List Token

/-! ## Written items -/

/-- One written item of a glob, before double stars and braces are looked at. -/
inductive Item where
  | character (c : Char) (escaped : Bool)
  | any
  | star
  | byteClass (negated : Bool) (ranges : List (Nat × Nat))
deriving DecidableEq, Repr

namespace Item

/-- A character without a backslash before it. -/
def plain (c : Char) : Item := .character c false

/-- The closing brace. -/
def closing : Item := plain '\x7d'

/-- The comma between the globs in braces. -/
def comma : Item := plain ','

/-- The slash between names. -/
def slash : Item := plain '/'

end Item

/-- The byte ranges of a range of characters: the bytes of both ends, joined in the middle. -/
def byteRanges (low high : Char) : List (Nat × Nat) :=
  let bytes (c : Char) := (String.utf8EncodeChar c).map UInt8.toNat
  let single (byte : Nat) := (byte, byte)
  if low = high then (bytes low).map single
  else
    match (bytes low).reverse, bytes high with
    | last :: before, first :: after =>
      before.reverse.map single ++ (last, first) :: after.map single
    | _, _ => []

/-- What a class of characters turns out to be. -/
inductive ClassEnd where
  /-- The class ends; so many characters of the glob belong to it. -/
  | closed (ranges : List (Char × Char)) (length : Nat)
  /-- The glob ends before the class does. -/
  | unclosed
  /-- A range has its ends the wrong way round. -/
  | badRange

/-- Read a class behind its opening bracket.  `ranges` holds what was read, last first;
`inRange` says that a hyphen waits for the end of a range; `length` counts characters. -/
def readClass (first inRange : Bool) (ranges : List (Char × Char)) (length : Nat) :
    Text → ClassEnd
  | [] => .unclosed
  | c :: rest =>
    if c == ']' && !first then
      .closed ((if inRange then [('-', '-')] else []) ++ ranges).reverse (length + 1)
    else if c == '-' && !first && !inRange then readClass false true ranges (length + 1) rest
    else
      match inRange, ranges with
      | true, (low, _) :: others =>
        if c < low then .badRange else readClass false false ((low, c) :: others) (length + 1) rest
      | _, _ => readClass false false ((c, c) :: ranges) (length + 1) rest

/-- The items of a glob.  A bracket that is never closed is a plain character, and so are
all brackets after it.  A range the wrong way round or a final backslash is an error. -/
def items? (bracketsArePlain : Bool) : Text → Option (List Item)
  | [] => some []
  | '?' :: rest => (items? bracketsArePlain rest).map (.any :: ·)
  | '*' :: rest => (items? bracketsArePlain rest).map (.star :: ·)
  | '\\' :: rest =>
    match rest with
    | [] => none
    | c :: rest => (items? bracketsArePlain rest).map (.character c true :: ·)
  | '[' :: rest =>
    if bracketsArePlain then (items? true rest).map (.character '[' false :: ·)
    else
      let negated := rest.head? == some '!' || rest.head? == some '^'
      match readClass true false [] 0 (if negated then rest.drop 1 else rest) with
      | .unclosed => (items? true rest).map (.character '[' false :: ·)
      | .badRange => none
      | .closed ranges length =>
        let bytes := ranges.flatMap fun (low, high) => byteRanges low high
        (items? false (rest.drop (length + if negated then 1 else 0))).map
          (.byteClass negated bytes :: ·)
  | c :: rest => (items? bracketsArePlain rest).map (.character c false :: ·)
termination_by text => text.length
decreasing_by all_goals simp only [List.length_cons, List.length_drop]; omega

/-! ## From items to tokens -/

/-- Braces that are not closed yet: the tokens in front of them and the globs in them that
are complete, both last first. -/
structure OpenBraces where
  front : Glob
  branches : List Glob

/-- A glob that is being read: the tokens of its innermost part, last first, and the open
braces around that part, the innermost first. -/
structure Draft where
  tokens : Glob := []
  braces : List OpenBraces := []

namespace Draft

/-- Append a token. -/
def push (draft : Draft) (token : Token) : Draft :=
  { draft with tokens := token :: draft.tokens }

/-- Append two stars that mean no more than one. -/
def pushStars (draft : Draft) : Draft :=
  (draft.push .star).push .star

/-- Append a double star for directories, which takes the place of the slash before it; it
adds nothing to one at the front or at the end of the directories. -/
def pushDoubleStar (draft : Draft) (token : Token) : Draft :=
  match draft.tokens with
  | .anyAbove :: _ | .anyBelow :: _ => draft
  | _ :: before => { draft with tokens := token :: before }
  | [] => draft.push token

/-- Whether a glob has no parts, or only braces with nothing in them. -/
def isVacant (glob : Glob) : Bool :=
  glob.all fun
    | .oneOf [] => true
    | _ => false

/-- Open braces. -/
def openBraces (draft : Draft) : Draft where
  braces := { front := draft.tokens, branches := [] } :: draft.braces

/-- A comma: inside braces it ends a glob. -/
def divide (draft : Draft) : Draft :=
  match draft.braces with
  | [] => draft.push (.literal ',')
  | inner :: outer =>
    { braces := { inner with branches := draft.tokens.reverse :: inner.branches } :: outer }

/-- Close the innermost braces.  Globs in them that say nothing do not count. -/
def closeBraces? (draft : Draft) : Option Draft :=
  match draft.braces with
  | [] => none
  | inner :: outer =>
    let branches := (draft.tokens.reverse :: inner.branches).reverse.filter fun branch => !isVacant branch
    some { tokens := .oneOf branches :: inner.front, braces := outer }

/-- Whether a double star behind a character may stand for directories. -/
def startsName (draft : Draft) (previous : Option Char) : Bool :=
  previous == some '/' ||
    !draft.braces.isEmpty && (previous == some ',' || previous == some '\x7b')

/-- Whether a part of the glob ends before an item. -/
def endsBefore (draft : Draft) (next : Option Item) : Bool :=
  match next with
  | none => true
  | some item => !draft.braces.isEmpty && (item = .comma || item = .closing)

/-- The glob that is complete. -/
def glob? (draft : Draft) : Option Glob :=
  if draft.braces.isEmpty then some draft.tokens.reverse else none

/-- Append the tokens of items; `previous` is the character before them, if it is one. -/
def read? (draft : Draft) (previous : Option Char) : List Item → Option Draft
  | [] => some draft
  | .star :: .star :: rest =>
    match draft.tokens.isEmpty, draft.startsName previous, rest with
    | true, _, [] => some (draft.push .anyAbove)
    | true, _, next :: rest =>
      if next = .slash then (draft.push .anyAbove).read? (some '/') rest
      else draft.pushStars.read? none (next :: rest)
    | false, true, next :: rest =>
      if next = .slash then (draft.pushDoubleStar .anyBetween).read? (some '/') rest
      else if draft.endsBefore (some next) then
        (draft.pushDoubleStar .anyBelow).read? none (next :: rest)
      else draft.pushStars.read? none (next :: rest)
    | false, true, [] => some (draft.pushDoubleStar .anyBelow)
    | false, false, rest => draft.pushStars.read? none rest
  | .star :: rest => (draft.push .star).read? none rest
  | .any :: rest => (draft.push .any).read? none rest
  | .byteClass negated ranges :: rest => (draft.push (.byteClass negated ranges)).read? none rest
  | .character c escaped :: rest =>
    if escaped then (draft.push (.literal c)).read? (some c) rest
    else if c = '\x7b' then draft.openBraces.read? (some c) rest
    else if c = ',' then draft.divide.read? (some c) rest
    else if c = '\x7d' then do
      let closed ← draft.closeBraces?
      closed.read? (some c) rest
    else (draft.push (.literal c)).read? (some c) rest

end Draft

/-- Read a glob.  One with braces that do not pair up is an error. -/
def Glob.parse? (text : Text) : Option Glob := do
  let items ← items? false text
  let draft ← Draft.read? {} none items
  draft.glob?

end GotoDefinition.Ignore
