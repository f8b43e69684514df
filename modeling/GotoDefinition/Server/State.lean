import GotoDefinition.Index.Workspace
import GotoDefinition.Server.Params
import GotoDefinition.Server.Protocol
import GotoDefinition.Settings.FileLayer

/-!
# The state of the server

The server remembers the documents the client has open, the settings in effect, the
symbol index, and whether the definition provider is registered with the client.
-/

namespace GotoDefinition

/-- A document the client has open. -/
structure OpenDocument where
  text : Text
  languageId : String
  version : Int
deriving DecidableEq, Repr

/-- Where symbols are searched. -/
inductive SymbolSource where
  /-- In the server's own index. -/
  | workspace
  /-- In a fixed list, whatever is searched. -/
  | fixed (symbols : List Symbol)
  /-- Nowhere: every search fails. -/
  | unavailable (reason : String)

/-- How far the conversation with the client has come. -/
inductive Phase where
  | uninitialized
  | running
  | shutDown
  | exited
deriving DecidableEq, Repr

/-- The error for a message that comes too early or too late. -/
def Phase.refusal : Phase → ResponseError
  | .uninitialized => .notInitialized
  | _ => .invalidRequest

/-- The server between two messages. -/
structure Server where
  documents : UriTable OpenDocument := {}
  settings : Settings := {}
  /-- The layer from the command line, put on top of the file layers. -/
  overrides : Layer := {}
  root : Option Path := none
  index : Index := {}
  source : SymbolSource := .workspace
  /-- What compiles the names that are looked for on a line. -/
  compiler : PatternCompiler := .standard
  /-- How many searches the source was asked for. -/
  searches : Nat := 0
  /-- Before the client says what it can do, a client of today is assumed. -/
  support : ClientSupport := { dynamicDefinition := false, linkSupport := true }
  /-- Whether the definition provider is registered with the client. -/
  registered : Bool := false
  /-- Whether there is a client to send messages to. -/
  connected : Bool := true
  phase : Phase := .uninitialized

/-- What the server meets while it handles a message. -/
structure Surroundings where
  disk : Disk
  /-- The user's settings file. -/
  userFile : Option Path
  replies : Replies := {}

namespace Server

/-- A server that a client is connected to. -/
def connectedTo (overrides : Layer) : Server :=
  { overrides, settings := Settings.merge {} overrides }

/-- A server without a client that searches in the given source. -/
def withoutClient (source : SymbolSource) : Server :=
  { source, connected := false }

/-- Search the symbols. -/
def search (server : Server) (query : Text) : Except IndexError (List Symbol) :=
  match server.source with
  | .workspace => .ok (server.index.search query)
  | .fixed symbols => .ok symbols
  | .unavailable reason => .error (.unavailable reason)

/-- A log message, if there is a client to send it to. -/
def logged (server : Server) (level : LogLevel) (message : String) : List Sent :=
  if server.connected then [.log level message] else []

end Server

end GotoDefinition
