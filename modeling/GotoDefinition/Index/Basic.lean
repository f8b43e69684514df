import GotoDefinition.Declaration
import GotoDefinition.Disk.Basic
import GotoDefinition.Text.Lowercase
import GotoDefinition.Uri.FilePath
import GotoDefinition.Uri.Table

/-!
# The symbol index

The index holds the symbols of each document by its URI and knows which documents the
client has open.  What an open document declares comes from the client alone; files are
read from disk only for documents that are not open.  Reading a file and putting its
symbols into the index are two steps, so that a document may be opened in between:
the second step looks at the open documents again.
-/

namespace GotoDefinition

/-- Why the index has no answer. -/
inductive IndexError where
  | unreadable (path : Path) (reason : ReadError)
  | notText (path : Path)
  | unavailable (reason : String)
deriving DecidableEq, Repr

namespace IndexError

/-- The wording of an error. -/
def message : IndexError → String
  | .unreadable path reason => "failed to read " ++ path.display ++ ": " ++ reason.message
  | .notText path => path.display ++ " is not valid UTF-8"
  | .unavailable reason => "symbol index unavailable: " ++ reason

end IndexError

/-- The symbols of the documents, and the documents the client has open. -/
structure Index where
  symbols : UriTable (List Symbol) := {}
  openDocuments : List Uri := []

/-- What reading a file yields for the index. -/
structure Scan where
  uri : Uri
  symbols : List Symbol

namespace Index

/-! ## Open documents -/

/-- Whether the client has a document open. -/
def isOpen (index : Index) (uri : Uri) : Bool :=
  index.openDocuments.contains uri

/-- Take over the text of an open document. -/
def update (index : Index) (uri : Uri) (content : Text) : Index where
  symbols := index.symbols.insert uri (content.symbols uri)
  openDocuments := uri :: index.openDocuments.filter (· != uri)

/-- Forget a document, so that it is no longer open. -/
def forget (index : Index) (uri : Uri) : Index where
  symbols := index.symbols.erase uri
  openDocuments := index.openDocuments.filter (· != uri)

/-! ## Files -/

/-- The symbols of bytes read from a path, none if the path has no URI. -/
def scanBytes (path : Path) (bytes : Bytes) : Except IndexError (Option Scan) :=
  match Text.ofUtf8? bytes with
  | none => .error (.notText path)
  | some content =>
    .ok ((Uri.ofFilePath? path).map fun uri => { uri, symbols := content.symbols uri })

/-- First step of indexing a file: read it and scan it. -/
def scanFile (disk : Disk) (path : Path) : Except IndexError (Option Scan) :=
  match disk.read path with
  | .error reason => .error (.unreadable path reason)
  | .ok bytes => scanBytes path bytes

/-- Second step of indexing a file: put its symbols in unless its document is open. -/
def commit (index : Index) (scan : Scan) : Index :=
  if index.isOpen scan.uri then index
  else { index with symbols := index.symbols.insert scan.uri scan.symbols }

/-- How many symbols indexing a file reports: none for an open document. -/
def reported (index : Index) (scan : Scan) : Nat :=
  if index.isOpen scan.uri then 0 else scan.symbols.length

/-- Index a file, and the number of symbols found. -/
def indexFile (index : Index) (disk : Disk) (path : Path) : Except IndexError (Index × Nat) :=
  match scanFile disk path with
  | .error reason => .error reason
  | .ok none => .ok (index, 0)
  | .ok (some scan) => .ok (index.commit scan, index.reported scan)

/-- Index a file if that is possible. -/
def indexFileOrSkip (index : Index) (disk : Disk) (path : Path) : Index :=
  match index.indexFile disk path with
  | .ok (index, _) => index
  | .error _ => index

/-- Forget an open document and index the file it stands for, if there is one. -/
def close (index : Index) (disk : Disk) (uri : Uri) : Index :=
  let forgotten := index.forget uri
  match uri.toFilePath? with
  | none => forgotten
  | some path => if disk.isFile path then forgotten.indexFileOrSkip disk path else forgotten

/-! ## Searching -/

/-- All symbols, in the order of their documents and then of their places. -/
def allSymbols (index : Index) : List Symbol :=
  index.symbols.values.flatten

/-- The number of symbols. -/
def size (index : Index) : Nat :=
  index.allSymbols.length

/-- The symbols whose names contain a text, upper and lower case being the same. -/
def search (index : Index) (query : Text) : List Symbol :=
  let needle := query.toLower
  index.allSymbols.filter fun symbol => needle.isEmpty || symbol.name.toLower.includes needle

end Index

end GotoDefinition
