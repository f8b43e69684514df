import GotoDefinition.Server.Dispatch

/-!
# The command line

Arguments are read from left to right.  The first request for help or for the version
is carried out at once, and so is the first error reported, whatever comes behind it.
Otherwise the server is started.
-/

namespace GotoDefinition.CommandLine

/-- What the options say. -/
structure Options where
  /-- Whether the transport was named. -/
  stdio : Bool := false
  /-- A further settings file. -/
  config : Option String := none
  logLevel : Option String := none
deriving DecidableEq, Repr

/-- What the command line asks for. -/
inductive Invocation where
  | serve (options : Options)
  | help
  | version
  | usageError
deriving DecidableEq, Repr

/-- The name of an argument and the value attached to it by an equals sign. -/
def splitValue (argument : String) : String × Option String :=
  let text := argument.toList
  let name := text.takeWhile (· != '=')
  match text.drop name.length with
  | _ :: value => (String.ofList name, some (String.ofList value))
  | [] => (argument, none)

/-- Whether an argument can be the value of the option before it: no option itself. -/
def isValue (argument : String) : Bool :=
  argument.toList.head? != some '-' || argument == "-"

/-- Short options behind one hyphen: the first decides. -/
def readShort : Text → Invocation
  | 'h' :: _ => .help
  | 'V' :: _ => .version
  | _ => .usageError

/-- The options with a settings file, which may be given once and not be empty. -/
def withConfig? (options : Options) (value : String) : Option Options :=
  if options.config.isSome || value.isEmpty then none else some { options with config := some value }

/-- The options with a log level, which may be given once. -/
def withLogLevel? (options : Options) (value : String) : Option Options :=
  if options.logLevel.isSome then none else some { options with logLevel := some value }

/-- Read the arguments that are left. -/
def read (options : Options) : List String → Invocation
  | [] => .serve options
  | "--" :: rest => if rest.isEmpty then .serve options else .usageError
  | argument :: rest =>
    match splitValue argument with
    | ("--help", none) => .help
    | ("--version", none) => .version
    | ("--stdio", none) => if options.stdio then .usageError else read { options with stdio := true } rest
    | ("--config", some value) =>
      match withConfig? options value with
      | some options => read options rest
      | none => .usageError
    | ("--log-level", some value) =>
      match withLogLevel? options value with
      | some options => read options rest
      | none => .usageError
    | ("--config", none) =>
      match rest with
      | value :: rest =>
        match if isValue value then withConfig? options value else none with
        | some options => read options rest
        | none => .usageError
      | [] => .usageError
    | ("--log-level", none) =>
      match rest with
      | value :: rest =>
        match if isValue value then withLogLevel? options value else none with
        | some options => read options rest
        | none => .usageError
      | [] => .usageError
    | _ =>
      match argument.toList with
      | '-' :: c :: letters => if c == '-' then .usageError else readShort (c :: letters)
      | _ => .usageError

/-- What the arguments ask for. -/
def parse (arguments : List String) : Invocation :=
  read {} arguments

/-! ## Output -/

/-- The lines of the help. -/
def helpLines : List String := [
    "Language-agnostic go-to-definition for method calls, driven by a workspace symbol index. Ready in an",
    "instant.",
    "",
    "Usage: symdef-lsp [OPTIONS]",
    "",
    "Options:",
    "      --stdio               Communicate over stdin/stdout (the only supported transport)",
    "      --config <PATH>       Extra TOML settings file, applied after the user and workspace files",
    "      --log-level <FILTER>  Log filter, e.g. `debug` or `symdef_lsp=trace`.  Overrides SYMDEF_LOG",
    "  -h, --help                Print help",
    "  -V, --version             Print version"]

/-- The text of the help. -/
def helpText : String :=
  String.join (helpLines.map (· ++ "\n"))

/-- The text of the version. -/
def versionText : String := "symdef-lsp 0.3.0\n"

/-- What is printed to standard output before the server, if any, starts. -/
def Invocation.output : Invocation → String
  | .help => helpText
  | .version => versionText
  | .serve _ | .usageError => ""

/-- The exit code. -/
def Invocation.exitCode : Invocation → Nat
  | .usageError => 2
  | _ => 0

/-! ## Serving -/

/-- The server that the options start; a settings file that is missing or broken counts as
empty. -/
def server (disk : Disk) (options : Options) : Server :=
  match options.config with
  | none => .connectedTo {}
  | some path => .connectedTo (Layer.ofFileOrEmpty disk (Path.ofString path))

/-- The responses to messages handled one after the other, up to the exit. -/
def responses (surroundings : Surroundings) (server : Server) : List Message → List Response
  | [] => []
  | message :: rest =>
    match server.handle surroundings message with
    | none => []
    | some outcome => outcome.response.toList ++ responses surroundings outcome.server rest

end GotoDefinition.CommandLine
