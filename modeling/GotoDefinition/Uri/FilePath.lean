import GotoDefinition.Disk.Path
import GotoDefinition.Uri.Basic
import GotoDefinition.Uri.Percent

/-!
# URIs of files

An absolute path becomes a `file` URI by percent-encoding each of its names.  In the
other direction the path of a URI is percent-decoded, provided that the URI has a
hierarchical path and names no host but `localhost`.
-/

namespace GotoDefinition.Uri

/-- The names of a path as URI segments, each behind a slash. -/
def segmentsText (names : List Bytes) : Text :=
  names.flatMap fun name => '/' :: Percent.encodeBytes Percent.inSegment name

/-- The URI of an absolute path. -/
def ofFilePath? (path : Path) : Option Uri :=
  if path.isAbsolute then
    let segments := segmentsText path.components
    some ⟨"file://".toList ++ if segments.isEmpty then ['/'] else segments⟩
  else none

/-- Whether a byte is an ASCII letter. -/
def isLetterByte (byte : UInt8) : Bool :=
  (0x41 ≤ byte && byte ≤ 0x5A) || (0x61 ≤ byte && byte ≤ 0x7A)

/-- A path that ends in a drive letter gets a final slash. -/
def closeDrive (path : Path) : Path :=
  match path.reverse with
  | mark :: letter :: _ :: _ =>
    if isLetterByte letter && (mark == 0x3A || mark == 0x7C) then path ++ [Path.slash] else path
  | _ => path

/-- The path of the file that a URI names. -/
def toFilePath? (uri : Uri) : Option Path :=
  match uri.path with
  | '/' :: _ =>
    if uri.host.isEmpty || uri.host == "localhost".toList then
      some (closeDrive (Percent.decode uri.path.utf8Bytes))
    else none
  | _ => none

end GotoDefinition.Uri
