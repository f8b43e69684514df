import GotoDefinition.CommandLine
import GotoDefinition.LogFilter
import GotoDefinition.Server.Frame

/-!
# The language server

The outer layer: it reads messages from standard input, gathers the files a message may
need into a `Disk`, lets the server handle the message, and writes what comes of it.
All decisions are made by the functions it calls.
-/

namespace GotoDefinition.Main

/-! ## Files -/

/-- A path as the operating system takes it. -/
def osPath (path : Path) : String :=
  path.display

/-- A disk without files, with the working directory of the process. -/
def emptyDisk : IO Disk := do
  let current := Path.ofString (← IO.currentDir).toString
  let empty : Disk := {}
  return { entries := empty.entries, workingDirectory := empty.target current,
           distinct := empty.distinct }

/-- The names in a directory, none if there is no directory at the path. -/
def namesIn? (directory : Path) : IO (Option (List String)) := do
  try
    let entries ← ((← IO.currentDir) / osPath directory).readDir
    return some (entries.toList.map (·.fileName))
  catch _ => return none

/-- The disk with the file or directory at a path, if there is one. -/
def loadEntry (disk : Disk) (path : Path) : IO Disk := do
  try
    let content ← IO.FS.readBinFile (osPath path)
    return disk.write path (.file content.toList)
  catch _ =>
    match ← namesIn? path with
    | some _ => return disk.write path .directory
    | none => return disk

/-- The disk with the files in a directory that say what to ignore below it. -/
def loadIgnoreFiles (disk : Disk) (directory : Path) : IO Disk := do
  let mut disk := disk
  for name in [".ignore", ".gitignore", ".git", ".git/info/exclude", ".jj"] do
    disk ← loadEntry disk (directory.join (Path.ofString name))
  return disk

/-- The disk with everything that a walk may visit below the directory with the given names
below its root. -/
partial def loadTree (disk : Disk) (root : Ignore.Root) (names : Location) : IO Disk := do
  let directory := root.pathOf names
  let mut disk ← loadIgnoreFiles (← loadEntry disk directory) directory
  for name in ((← namesIn? directory).getD []).filterMap (FileName.ofBytes? ∘ Path.ofString) do
    let below := names ++ [name]
    let isDirectory := (← namesIn? (root.pathOf below)).isSome
    if !Ignore.isSkipped disk root below isDirectory then
      disk ← if isDirectory then loadTree disk root below else loadEntry disk (root.pathOf below)
  return disk

/-- The disk with a workspace and the ignore files in the directories above it. -/
def loadWorkspace (disk : Disk) (path : Path) : IO Disk := do
  let root : Ignore.Root := { path, location := disk.target path }
  let mut disk := disk
  for ancestor in Disk.ancestors root.location do
    disk ← loadIgnoreFiles disk (Ignore.absolutePath ancestor)
  loadTree disk root []

/-- The files that a message may need. -/
def filesFor (userFile : Option Path) (server : Server) (message : Message) : IO Disk := do
  let mut disk ← emptyDisk
  match Server.Method.ofName? message.method with
  | some .start =>
    for path in userFile do
      disk ← loadEntry disk path
    match Server.readParams StartParams.decode message.params with
    | .ok params =>
      for root in Server.rootOf params do
        disk ← loadEntry disk root
        disk ← loadEntry disk (root.join workspaceSettingsFile)
    | .error _ => pure ()
  | some .ready =>
    for root in server.root do
      disk ← loadWorkspace disk root
  | some .closeDocument =>
    match Server.readParams decodeClosed message.params with
    | .ok uri =>
      for path in uri.toFilePath? do
        disk ← loadEntry disk path
    | .error _ => pure ()
  | _ => pure ()
  return disk

/-! ## The conversation -/

/-- Standard input and output, and messages that came while a reply was awaited. -/
structure Connection where
  input : IO.FS.Stream
  output : IO.FS.Stream
  waiting : List Message := []
  nextId : Nat := 0

/-- Write a value to the client. -/
def Connection.write (connection : Connection) (value : Json) : IO Unit := do
  connection.output.putStr (Frame.write value)
  connection.output.flush

/-- The header lines up to the empty one, none at the end of the input. -/
partial def readHeader (input : IO.FS.Stream) (lines : List String) : IO (Option (List String)) := do
  let line ← input.getLine
  if line.isEmpty then return none
  else if line.trimAscii.isEmpty then return some lines
  else readHeader input (line :: lines)

/-- So many bytes, fewer at the end of the input. -/
partial def readBytes (input : IO.FS.Stream) (count : Nat) (done : ByteArray) : IO ByteArray := do
  if count = 0 then return done
  let piece ← input.read count.toUSize
  if piece.isEmpty then return done
  readBytes input (count - piece.size) (done ++ piece)

/-- The next thing the client sends, none at the end of the input. -/
partial def readIncoming (input : IO.FS.Stream) : IO (Option Frame.Incoming) := do
  match ← readHeader input [] with
  | none => return none
  | some lines =>
    match Frame.contentLength? lines with
    | none => readIncoming input
    | some length =>
      let bytes ← readBytes input length ByteArray.empty
      return some (.ofBytes bytes.toList)

/-- The reply to the request with an identifier; messages that come first are kept. -/
partial def awaitReply (connection : Connection) (id : Nat) : IO (Connection × Reply) := do
  match ← readIncoming connection.input with
  | none => return (connection, .error "connection closed")
  | some (.message message) =>
    awaitReply { connection with waiting := connection.waiting ++ [message] } id
  | some (.reply (.integer other) reply) =>
    if other = id then return (connection, reply) else awaitReply connection id
  | some _ => awaitReply connection id

/-- Handle a message.  A reply is looked at only after its request was sent, so the message
is handled again with each reply that comes in, and the first `done` messages of the
outcome have been sent already. -/
partial def converse (connection : Connection) (server : Server) (surroundings : Surroundings)
    (message : Message) (done : Nat) : IO (Connection × Option Server.Outcome) := do
  match server.handle surroundings message with
  | none => return (connection, none)
  | some outcome =>
    match outcome.sent.drop done with
    | [] => return (connection, some outcome)
    | sent :: _ =>
      connection.write (Frame.sentJson sent connection.nextId)
      if sent.isRequest then
        let id := connection.nextId
        let (connection, reply) ← awaitReply { connection with nextId := id + 1 } id
        let replies := Frame.withReply surroundings.replies sent reply
        converse connection server { surroundings with replies } message (done + 1)
      else converse connection server surroundings message (done + 1)

/-- Serve until the client exits or the input ends. -/
partial def serve (connection : Connection) (userFile : Option Path) (server : Server) :
    IO Unit := do
  let (connection, incoming) ←
    match connection.waiting with
    | message :: waiting => pure ({ connection with waiting }, some (Frame.Incoming.message message))
    | [] => pure (connection, ← readIncoming connection.input)
  match incoming with
  | none => return
  | some (.reply _ _) => serve connection userFile server
  | some .malformed =>
    connection.write (Response.toJson { id := .null, outcome := .error .parseError })
    serve connection userFile server
  | some (.message message) =>
    let disk ← filesFor userFile server message
    let (connection, outcome) ← converse connection server { disk, userFile } message 0
    match outcome with
    | none => return
    | some outcome =>
      for response in outcome.response do
        connection.write response.toJson
      if outcome.server.phase = .exited then return
      serve connection userFile outcome.server

/-- Start the server that the options ask for. -/
def run (options : CommandLine.Options) : IO Unit := do
  let filter := LogFilter.choose options.logLevel (← IO.getEnv "SYMDEF_LOG") (← IO.getEnv "RUST_LOG")
  if ["info", "debug", "trace"].contains filter then
    IO.eprint ("INFO starting " ++ CommandLine.versionText)
  let home := (← IO.getEnv "HOME").map Path.ofString
  let configHome := (← IO.getEnv "XDG_CONFIG_HOME").map Path.ofString
  let userFile := home.map (userSettingsPath · configHome)
  let mut disk ← emptyDisk
  for path in options.config do
    disk ← loadEntry disk (Path.ofString path)
  serve { input := ← IO.getStdin, output := ← IO.getStdout } userFile
    (CommandLine.server disk options)

end GotoDefinition.Main

/-- Carry out the command line. -/
def main (arguments : List String) : IO UInt32 := do
  let invocation := GotoDefinition.CommandLine.parse arguments
  IO.print invocation.output
  match invocation with
  | .serve options => GotoDefinition.Main.run options
  | .usageError => IO.eprintln "error: unexpected argument; for more information, try '--help'."
  | _ => pure ()
  return invocation.exitCode.toUInt32
