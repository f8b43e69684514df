import GotoDefinition.CommandLine
import GotoDefinition.Decimal.Nearest
import GotoDefinition.Decimal.Scaled
import GotoDefinition.Decimal.Shortest
import GotoDefinition.Declaration
import GotoDefinition.Disk.Basic
import GotoDefinition.Disk.Path
import GotoDefinition.DomainName.Ascii
import GotoDefinition.DomainName.Bidi
import GotoDefinition.DomainName.Joiner
import GotoDefinition.DomainName.Mapping
import GotoDefinition.DomainName.Punycode
import GotoDefinition.Ignore.Glob
import GotoDefinition.Ignore.Matching
import GotoDefinition.Ignore.Rules
import GotoDefinition.Ignore.Walk
import GotoDefinition.Index.Basic
import GotoDefinition.Index.Workspace
import GotoDefinition.Json.Basic
import GotoDefinition.Json.Decode
import GotoDefinition.Json.Parser
import GotoDefinition.Json.Printer
import GotoDefinition.LogFilter
import GotoDefinition.Main
import GotoDefinition.Position
import GotoDefinition.Proofs.Declaration
import GotoDefinition.Proofs.Index.History
import GotoDefinition.Proofs.Resolver
import GotoDefinition.Proofs.Server.Definition
import GotoDefinition.Proofs.Server.Documents
import GotoDefinition.Proofs.Server.Step
import GotoDefinition.Proofs.Symbols
import GotoDefinition.Proofs.Text.Line
import GotoDefinition.Proofs.Text.Units
import GotoDefinition.Resolver
import GotoDefinition.Server.Capabilities
import GotoDefinition.Server.Dispatch
import GotoDefinition.Server.Frame
import GotoDefinition.Server.Handlers
import GotoDefinition.Server.Params
import GotoDefinition.Server.Protocol
import GotoDefinition.Server.Refused
import GotoDefinition.Server.Shapes
import GotoDefinition.Server.State
import GotoDefinition.Settings.Basic
import GotoDefinition.Settings.ClientLayer
import GotoDefinition.Settings.FileLayer
import GotoDefinition.Symbol
import GotoDefinition.Text.Alphanumeric
import GotoDefinition.Text.Blank
import GotoDefinition.Text.CodeMap
import GotoDefinition.Text.CodePoints
import GotoDefinition.Text.CombiningClass
import GotoDefinition.Text.Composed
import GotoDefinition.Text.Decomposition
import GotoDefinition.Text.Line
import GotoDefinition.Text.Lowercase
import GotoDefinition.Text.Quoted
import GotoDefinition.Text.Units
import GotoDefinition.Text.Utf8
import GotoDefinition.Text.Word
import GotoDefinition.Text.WordCharacter
import GotoDefinition.Toml.Basic
import GotoDefinition.Toml.Document
import GotoDefinition.Toml.Quoted
import GotoDefinition.Toml.Scalar
import GotoDefinition.Toml.Statement
import GotoDefinition.Uri.Basic
import GotoDefinition.Uri.FilePath
import GotoDefinition.Uri.Host
import GotoDefinition.Uri.Parser
import GotoDefinition.Uri.Percent
import GotoDefinition.Uri.Table
import GotoDefinition.Proofs.Grammar
import GotoDefinition.Proofs.Index.Search
import GotoDefinition.Proofs.Index.Ownership
import GotoDefinition.Proofs.Server.Completeness
import GotoDefinition.Proofs.Server.Session
import GotoDefinition.Proofs.Server.Registration
import GotoDefinition.Proofs.Server.Settings
import GotoDefinition.Proofs.Index.Interleaving
import GotoDefinition.Proofs.Places
import GotoDefinition.Proofs.Newlines
import GotoDefinition.Proofs.Index.Order
import GotoDefinition.Proofs.Server.Reopening
import GotoDefinition.Proofs.Text.Word
import GotoDefinition.Proofs.Text.Run
import GotoDefinition.Proofs.Origin
import GotoDefinition.Proofs.Server.Origin
import GotoDefinition.Proofs.Text.Division
import GotoDefinition.Proofs.Text.Columns
import GotoDefinition.Proofs.Server.DeclaredNames
import GotoDefinition.Proofs.Candidates
import GotoDefinition.Proofs.Json.Members
import GotoDefinition.Proofs.Settings.ClientLayer
import GotoDefinition.Proofs.Disk.Paths
import GotoDefinition.Proofs.Ignore.Walk
import GotoDefinition.Proofs.Index.Workspace
import GotoDefinition.Proofs.Index.Closing
import GotoDefinition.Proofs.Text.Faults
import GotoDefinition.Proofs.Server.Faults
import GotoDefinition.Proofs.Text.Positions
