import GotoDefinition.Toml.Quoted

/-!
# Statements of a document

A document is a sequence of lines: a key with a value, the header of a table, the
header of an element of an array of tables, or nothing; each may end in a comment.
-/

namespace GotoDefinition.Toml

/-! ## Between the tokens -/

/-- A text without the spaces and tabs in front. -/
def skipGap (text : Text) : Text :=
  text.dropWhile isGap

/-- What follows an optional comment up to the line end; none if the comment holds a
control character. -/
def afterComment? (text : Text) : Option Text :=
  match text with
  | '#' :: rest =>
    let rest := rest.dropWhile isPlain
    if rest.isEmpty || (afterLineEnd? rest).isSome then some rest else none
  | rest => some rest

/-- What follows blanks, line ends and comments inside brackets; `fuel` bounds the lines. -/
def skipLines? : Nat → Text → Option Text
  | 0, _ => none
  | fuel + 1, text => do
    let rest ← afterComment? (skipGap text)
    match afterLineEnd? rest with
    | some next => skipLines? fuel next
    | none => some rest

/-- What follows everything that carries no meaning inside brackets. -/
def skipBlank? (text : Text) : Option Text :=
  skipLines? (text.length + 1) text

/-! ## Keys -/

/-- Whether a character may stand in a key without quotes. -/
def isKeyCharacter (c : Char) : Bool :=
  ('a' ≤ c && c ≤ 'z') || ('A' ≤ c && c ≤ 'Z') || Decimal.isDigit c || c == '_' || c == '-'

/-- One part of a key. -/
def keyPart? : Reader String
  | [] => none
  | c :: rest =>
    if c == '"' || c == '\x27' then
      (shortString? c rest).map fun (key, rest) => (String.ofList key, rest)
    else
      let key := (c :: rest).takeWhile isKeyCharacter
      if key.isEmpty then none else some (String.ofList key, (c :: rest).drop key.length)

/-- A key of at most so many parts with dots between them. -/
def keyParts? : Nat → Reader (List String)
  | 0, _ => none
  | count + 1, text => do
    let (part, rest) ← keyPart? (skipGap text)
    match skipGap rest with
    | '.' :: rest =>
      let (parts, rest) ← keyParts? count rest
      return (part :: parts, rest)
    | rest => return ([part], rest)

/-- How many parts a key may have, and how many arrays and inline tables may stand inside
each other. -/
def deepestNesting : Nat := 80

/-- A key. -/
def key? : Reader (List String) :=
  keyParts? deepestNesting

/-! ## Tables while they are built -/

/-- How a table came to be, which decides whether it may be extended. -/
inductive Origin where
  /-- It lies on the way to a table with a header. -/
  | implied
  /-- It has a header. -/
  | header
  /-- It lies on the way to a dotted key. -/
  | dotted
deriving DecidableEq, Repr

/-- A table or value in a document that is being read. -/
inductive Node where
  | value (value : Value)
  | table (origin : Origin) (members : List (String × Node))
  /-- An array of tables, the last one first. -/
  | tables (elements : List (List (String × Node)))
deriving Inhabited

/-- The members of a table. -/
abbrev Members := List (String × Node)

namespace Members

/-- The members with the one under a key replaced, or put at the end. -/
def set (key : String) (node : Node) : Members → Members
  | [] => [(key, node)]
  | (other, otherNode) :: rest =>
    if other = key then (key, node) :: rest else (other, otherNode) :: set key node rest

/-- Change the table that headers lead to, making the tables on the way to it. -/
def modifyAt (change : Members → Option Members) : List String → Members → Option Members
  | [], members => change members
  | key :: keys, members => do
    let node ←
      match members.lookup key with
      | none => (modifyAt change keys []).map (.table .implied)
      | some (.table origin inner) => (modifyAt change keys inner).map (.table origin)
      | some (.tables (last :: others)) =>
        (modifyAt change keys last).map fun last => .tables (last :: others)
      | some _ => none
    return set key node members

/-- Open the table of a header. -/
def openTable (key : String) (members : Members) : Option Members :=
  match members.lookup key with
  | none => some (set key (.table .header []) members)
  | some (.table .implied inner) => some (set key (.table .header inner) members)
  | some _ => none

/-- Open a new element of an array of tables. -/
def openElement (key : String) (members : Members) : Option Members :=
  match members.lookup key with
  | none => some (set key (.tables [[]]) members)
  | some (.tables elements) => some (set key (.tables ([] :: elements)) members)
  | some _ => none

/-- Put a value under a dotted key.  The key may lead through tables that have no header
of their own, whatever they were made for. -/
def assign (value : Value) : List String → Members → Option Members
  | [], _ => none
  | [key], members =>
    match members.lookup key with
    | none => some (set key (.value value) members)
    | some _ => none
  | key :: keys, members => do
    let node ←
      match members.lookup key with
      | none => (assign value keys []).map (.table .dotted)
      | some (.table .header _) => none
      | some (.table origin inner) => (assign value keys inner).map (.table origin)
      | some _ => none
    return set key node members

end Members

mutual

/-- A node as a value. -/
def Node.toValue : Node → Value
  | .value value => value
  | .table _ members => .table (membersToValues members)
  | .tables elements => .array (elementsToValues elements).reverse

/-- Members as values. -/
def membersToValues : List (String × Node) → List (String × Value)
  | [] => []
  | (key, node) :: rest => (key, node.toValue) :: membersToValues rest

/-- The elements of an array of tables as values. -/
def elementsToValues : List (List (String × Node)) → List Value
  | [] => []
  | members :: rest => .table (membersToValues members) :: elementsToValues rest

end

/-! ## Values -/

/-- Whether a character ends a scalar without quotes. -/
def endsScalar (c : Char) : Bool :=
  [',', '=', '[', ']', '\x7b', '\x7d', '#', '"', '\x27', ' ', '\t', '\r', '\n'].contains c

/-- A scalar without quotes; a date may be followed by a space and a time. -/
def bareScalar? : Reader Value := fun text => do
  let word := text.takeWhile fun c => !endsScalar c
  let rest := text.drop word.length
  let (word, rest) :=
    match afterDate? word, rest with
    | some [], ' ' :: c :: more =>
      if Decimal.isDigit c then
        let time := (c :: more).takeWhile fun c => !endsScalar c
        (word ++ ' ' :: time, (c :: more).drop time.length)
      else (word, rest)
    | _, _ => (word, rest)
  let value ← scalar? word
  return (value, rest)

/-- The items of an array behind its opening bracket or a comma. -/
def arrayItems? (item? : Reader Value) : Nat → Reader (List Value)
  | 0, _ => none
  | fuel + 1, text => do
    let start ← skipBlank? text
    match start with
    | ']' :: rest => return ([], rest)
    | start =>
      let (item, rest) ← item? start
      match ← skipBlank? rest with
      | ',' :: rest =>
        let (items, rest) ← arrayItems? item? fuel rest
        return (item :: items, rest)
      | ']' :: rest => return ([item], rest)
      | _ => none

/-- The members of an inline table behind its opening brace or a comma. -/
def inlineMembers? (item? : Reader Value) : Nat → Members → Reader Members
  | 0, _, _ => none
  | fuel + 1, members, text => do
    let start ← skipBlank? text
    match start with
    | '\x7d' :: rest => return (members, rest)
    | start =>
      let (key, rest) ← key? start
      let rest ← expect? '=' (← skipBlank? rest)
      let (value, rest) ← item? (← skipBlank? rest)
      let members ← members.assign value key
      match ← skipBlank? rest with
      | ',' :: rest => inlineMembers? item? fuel members rest
      | '\x7d' :: rest => return (members, rest)
      | _ => none

/-- A string or a scalar without quotes. -/
def plainValue? : Reader Value
  | [] => none
  | c :: rest =>
    if c == '"' || c == '\x27' then
      (string? (c :: rest)).map fun (value, rest) => (.string (String.ofList value), rest)
    else bareScalar? (c :: rest)

/-- A value, with at most `depth` arrays and inline tables around each other. -/
def value? : Nat → Reader Value
  | 0, text => plainValue? text
  | depth + 1, text =>
    match text with
    | '[' :: rest =>
      (arrayItems? (value? depth) (rest.length + 1) rest).map fun (items, rest) =>
        (.array items, rest)
    | '\x7b' :: rest =>
      (inlineMembers? (value? depth) (rest.length + 1) [] rest).map fun (members, rest) =>
        (.table (membersToValues members), rest)
    | text => plainValue? text

/-! ## Statements -/

/-- One line of a document. -/
inductive Statement where
  | empty
  | assignment (key : List String) (value : Value)
  | tableHeader (key : List String)
  | elementHeader (key : List String)

/-- A statement at the front of a text. -/
def statement? : Reader Statement := fun text =>
  match skipGap text with
  | '[' :: '[' :: rest => do
    let (key, rest) ← key? rest
    let rest ← expect? ']' (← expect? ']' rest)
    return (.elementHeader key, rest)
  | '[' :: rest => do
    let (key, rest) ← key? rest
    let rest ← expect? ']' rest
    return (.tableHeader key, rest)
  | [] => some (.empty, [])
  | '#' :: rest => some (.empty, '#' :: rest)
  | '\n' :: rest => some (.empty, '\n' :: rest)
  | '\r' :: rest => some (.empty, '\r' :: rest)
  | start => do
    let (key, rest) ← key? start
    let rest ← expect? '=' rest
    let (value, rest) ← value? deepestNesting (skipGap rest)
    return (.assignment key value, rest)

/-- All statements of a document; `fuel` bounds the lines. -/
def statements? : Nat → Text → Option (List Statement)
  | 0, _ => none
  | fuel + 1, text => do
    let (statement, rest) ← statement? text
    let rest ← afterComment? (skipGap rest)
    match rest with
    | [] => return [statement]
    | rest =>
      let next ← afterLineEnd? rest
      let statements ← statements? fuel next
      return statement :: statements

end GotoDefinition.Toml
