import GotoDefinition.Uri.Basic
import GotoDefinition.Uri.Host
import GotoDefinition.Uri.Percent

/-!
# Reading a URI

The text is cleaned of surrounding blanks and of tabs and line ends, divided into
scheme, authority, path, query and fragment, and each part is brought to its normal
form.  `file` and the web schemes are special: a backslash divides their path as a
slash does, and they always have a path.
-/

namespace GotoDefinition.Uri

/-! ## Schemes -/

/-- How the parts of a URI are read. -/
inductive SchemeClass where
  | file
  | special
  | other
deriving DecidableEq, Repr

/-- The class of a scheme. -/
def SchemeClass.ofScheme (scheme : String) : SchemeClass :=
  if scheme == "file" then .file
  else if ["http", "https", "ws", "wss", "ftp"].contains scheme then .special
  else .other

/-- Whether a backslash divides paths and a path is always present. -/
def SchemeClass.isSpecial : SchemeClass → Bool
  | .other => false
  | _ => true

/-- The port that a scheme leaves unwritten. -/
def defaultPort? : String → Option Nat
  | "http" | "ws" => some 80
  | "https" | "wss" => some 443
  | "ftp" => some 21
  | _ => none

/-- The input without surrounding controls and spaces, and without tabs and line ends. -/
def cleaned (input : Text) : Text :=
  let isEdge (c : Char) := c.toNat ≤ 0x20
  let trimmed := ((input.dropWhile isEdge).reverse.dropWhile isEdge).reverse
  trimmed.filter fun c => c != '\t' && c != '\n' && c != '\r'

/-- Whether a character may stand in a scheme after its first letter. -/
def isSchemeCharacter (c : Char) : Bool :=
  Host.isLetter c || Decimal.isDigit c || ['+', '-', '.'].contains c

/-- The scheme in lower case and what follows its colon. -/
def splitScheme? (input : Text) : Option (Text × Text) :=
  let scheme := input.takeWhile isSchemeCharacter
  match scheme, input.dropWhile isSchemeCharacter with
  | first :: _, ':' :: rest =>
    if Host.isLetter first then some (scheme.map Char.toLower, rest) else none
  | _, _ => none

/-! ## Paths -/

/-- Whether a path segment is a drive letter with a colon or a bar. -/
def isDriveLetter : Text → Bool
  | [letter, mark] => Host.isLetter letter && (mark == ':' || mark == '|')
  | _ => false

/-- Whether a segment stands for the directory itself. -/
def isSingleDot (segment : Text) : Bool :=
  [".", "%2e", "%2E"].contains (String.ofList segment)

/-- Whether a segment stands for the parent directory. -/
def isDoubleDot (segment : Text) : Bool :=
  ["..", ".%2e", ".%2E", "%2e.", "%2E.", "%2e%2e", "%2e%2E", "%2E%2e", "%2E%2E"].contains
    (String.ofList segment)

/-- The segments without the last one.  The segments come last first; a drive letter is
never removed. -/
def dropSegment : List Text → List Text
  | [] => []
  | segment :: segments => if isDriveLetter segment then segment :: segments else segments

/-- Bring the segments of a path to normal form; `before` holds those already done, last
first. -/
def normalSegments : List Text → List Text → List Text
  | before, [] => before
  | before, [last] =>
    if isDoubleDot last then [] :: dropSegment before
    else if isSingleDot last then [] :: before
    else last :: before
  | before, segment :: rest =>
    if isDoubleDot segment then normalSegments (dropSegment before) rest
    else if isSingleDot segment then normalSegments before rest
    else normalSegments (segment :: before) rest

/-- The encoded segments of a path without its leading slash. -/
def encodedSegments (scheme : SchemeClass) (path : Text) : List Text :=
  let isSlash (c : Char) := c == '/' || (scheme.isSpecial && c == '\\')
  (path.splitWhere isSlash).map (Percent.encode Percent.inPath)

/-- The segments with a colon in a drive letter that comes first. -/
def withDriveColon : List Text → List Text
  | [letter, mark] :: rest =>
    (if isDriveLetter [letter, mark] then [letter, ':'] else [letter, mark]) :: rest
  | segments => segments

/-- The normal form of a path whose leading slash was taken off. -/
def normalPath (scheme : SchemeClass) (path : Text) : Text :=
  '/' :: Text.joinWith ['/'] (normalSegments [] (encodedSegments scheme path)).reverse

/-- The normal form of the path of a `file` URI.  It keeps only one of several leading
slashes. -/
def normalFilePath (path : Text) : Text :=
  let segments := withDriveColon (encodedSegments .file path)
  '/' :: (Text.joinWith ['/'] (normalSegments [] segments).reverse).dropWhile (· == '/')

/-- Whether a path of a `file` URI begins with a drive letter, so that a host is dropped. -/
def startsWithDrive (path : Text) : Bool :=
  (encodedSegments .file path).head?.any isDriveLetter

/-! ## Query and fragment -/

/-- Whether a character begins the query or the fragment. -/
def endsPath (c : Char) : Bool :=
  c == '?' || c == '#'

/-- The normal form of query and fragment, each with its mark. -/
def normalTail (scheme : SchemeClass) (tail : Text) : Text :=
  let query := tail.takeWhile (· != '#')
  let fragment := tail.dropWhile (· != '#')
  let inQuery := if scheme.isSpecial then Percent.inSpecialQuery else Percent.inQuery
  let writeAfterMark (reserved : Char → Bool) : Text → Text
    | [] => []
    | mark :: rest => mark :: Percent.encode reserved rest
  writeAfterMark inQuery query ++ writeAfterMark Percent.inFragment fragment

/-! ## Authority -/

/-- Whether a character ends the authority while it is read. -/
def stopsAuthority (scheme : SchemeClass) (c : Char) : Bool :=
  c == '/' || c == '?' || c == '#' || (scheme.isSpecial && c == '\\')

/-- User information in normal form with the `@` that ends it; an empty password loses
its colon. -/
def userInfoText (info : Text) : Text :=
  let user := info.takeWhile (· != ':')
  let password := (info.dropWhile (· != ':')).drop 1
  let encode := Percent.encode Percent.inUserInfo
  let written := encode user ++ if password.isEmpty then [] else ':' :: encode password
  if written.isEmpty then [] else written ++ ['@']

/-- The characters up to the colon before the port; colons in brackets do not count. -/
def splitHost : Bool → Text → Text × Text
  | _, [] => ([], [])
  | inside, c :: rest =>
    if c == ':' && !inside then ([], c :: rest)
    else
      let inside := if c == '[' then true else if c == ']' then false else inside
      let (host, after) := splitHost inside rest
      (c :: host, after)

/-- The port with its colon, empty for the default port of the scheme. -/
def portText (scheme : String) : Text → Except UriError Text
  | [] => .ok []
  | _ :: digits =>
    if !digits.all Decimal.isDigit then .error .invalidPort
    else
      match Host.number? 10 digits with
      | none => .error .invalidPort
      | some port =>
        if 0xFFFF < port then .error .invalidPort
        else if digits.isEmpty || defaultPort? scheme == some port then .ok []
        else .ok (':' :: Text.ofNat port)

/-- The normal form of an authority, and what is left of it for the path: a backslash ends
the port in any case. -/
def readAuthority (schemeName : String) (scheme : SchemeClass) (authority : Text) :
    Except UriError (Text × Text) := do
  let hostAndPort := (authority.reverse.takeWhile (· != '@')).reverse
  let info := (authority.take (authority.length - hostAndPort.length)).dropLast
  let (host, port) := splitHost false hostAndPort
  if host.isEmpty && (scheme.isSpecial || !port.isEmpty) then throw .emptyHost
  let hostText ← if scheme.isSpecial then Host.special host else Host.opaqueHost host
  let portText ← portText schemeName (port.takeWhile (· != '\\'))
  let infoText := userInfoText info
  if hostText.isEmpty && !infoText.isEmpty then throw .emptyHost
  return (infoText ++ hostText ++ portText, port.dropWhile (· != '\\'))

/-! ## The whole URI -/

/-- Take off one leading slash, or backslash where that divides paths. -/
def dropSlash (scheme : SchemeClass) : Text → Text
  | c :: rest => if c == '/' || (scheme.isSpecial && c == '\\') then rest else c :: rest
  | [] => []

/-- A `file` URI with its host, from the path on. -/
def fileText (host rest : Text) : Text :=
  let path := dropSlash .file (rest.takeWhile fun c => !endsPath c)
  let tail := rest.dropWhile fun c => !endsPath c
  "file://".toList ++ (if startsWithDrive path then [] else host) ++ normalFilePath path
    ++ normalTail .file tail

/-- A `file` URI after its colon. -/
def parseFile (rest : Text) : Except UriError Text :=
  let isSlash (c : Char) := c == '/' || c == '\\'
  match rest with
  | first :: second :: afterSlashes =>
    if isSlash first && isSlash second then do
      let host := afterSlashes.takeWhile fun c => !stopsAuthority .file c
      if isDriveLetter host then return fileText [] afterSlashes
      let hostText ← if host.isEmpty then pure [] else Host.special host
      let hostText := if hostText == "localhost".toList then [] else hostText
      return fileText hostText (afterSlashes.drop host.length)
    else .ok (fileText [] rest)
  | _ => .ok (fileText [] rest)

/-- A URI with an authority after its two slashes.  An authority that is nothing but the mark
behind the user information may only end the URI. -/
def parseAuthority (schemeName : String) (scheme : SchemeClass) (rest : Text) :
    Except UriError Text := do
  let authority := rest.takeWhile fun c => !stopsAuthority scheme c
  if authority == ['@'] && authority.length < rest.length then throw .emptyHost
  let (authorityText, left) ← readAuthority schemeName scheme authority
  let afterAuthority := left ++ rest.drop authority.length
  let path := afterAuthority.takeWhile fun c => !endsPath c
  let tail := afterAuthority.dropWhile fun c => !endsPath c
  let pathText :=
    if path.isEmpty && !scheme.isSpecial then [] else normalPath scheme (dropSlash scheme path)
  return "//".toList ++ authorityText ++ pathText ++ normalTail scheme tail

/-- A URI without an authority after its colon.  A path that begins with two slashes is
kept apart from an authority by a dot segment. -/
def parseWithoutAuthority (rest : Text) : Text :=
  let path := rest.takeWhile fun c => !endsPath c
  let tail := rest.dropWhile fun c => !endsPath c
  let pathText :=
    match path with
    | '/' :: relative =>
      let normal := normalPath .other relative
      if "//".toList.isPrefixOf normal then "/.".toList ++ normal else normal
    | _ => Percent.encode Percent.isControl path
  pathText ++ normalTail .other tail

/-- Read a URI and bring it to normal form. -/
def parse (input : Text) : Except UriError Uri :=
  match splitScheme? (cleaned input) with
  | none => .error .relativeWithoutBase
  | some (schemeText, rest) => do
    let schemeName := String.ofList schemeText
    let scheme := SchemeClass.ofScheme schemeName
    let colon := schemeText ++ [':']
    match scheme, rest with
    | .file, _ => return ⟨← parseFile rest⟩
    | .special, _ =>
      let afterSlashes := rest.dropWhile fun c => c == '/' || c == '\\'
      return ⟨colon ++ (← parseAuthority schemeName scheme afterSlashes)⟩
    | .other, '/' :: '/' :: afterSlashes =>
      return ⟨colon ++ (← parseAuthority schemeName scheme afterSlashes)⟩
    | .other, _ => return ⟨colon ++ parseWithoutAuthority rest⟩

end GotoDefinition.Uri
