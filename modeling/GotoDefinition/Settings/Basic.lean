import GotoDefinition.Json.Basic
import GotoDefinition.Resolver

/-!
# Settings and their layers

Settings are built from layers.  A layer mentions some of the four settings and leaves
the others as the layers below it made them.
-/

namespace GotoDefinition

/-- The settings in effect. -/
structure Settings where
  /-- The languages definitions are offered for. -/
  enabledLanguages : List String := []
  variant : Variant := .strict
  /-- Whether the files of the workspace are scanned on start-up. -/
  indexWorkspace : Bool := true
  /-- Larger files, in bytes, are not scanned. -/
  maxFileSize : Nat := 1024 * 1024
deriving DecidableEq, Repr

/-- The settings that one source mentions. -/
structure Layer where
  enabledLanguages : Option (List String) := none
  variant : Option Variant := none
  indexWorkspace : Option Bool := none
  maxFileSize : Option Nat := none
deriving DecidableEq, Repr

/-- The registration of the definition provider with the client. -/
structure Registration where
  languages : List String
deriving DecidableEq, Repr

namespace Settings

/-- The settings with a layer put on top of them. -/
def merge (settings : Settings) (layer : Layer) : Settings where
  enabledLanguages := layer.enabledLanguages.getD settings.enabledLanguages
  variant := layer.variant.getD settings.variant
  indexWorkspace := layer.indexWorkspace.getD settings.indexWorkspace
  maxFileSize := layer.maxFileSize.getD settings.maxFileSize

/-- Whether definitions are offered for a language. -/
def isEnabled (settings : Settings) (language : String) : Bool :=
  settings.enabledLanguages.contains language

/-- What is registered with the client: nothing if no language is enabled. -/
def registration? (settings : Settings) : Option Registration :=
  if settings.enabledLanguages.isEmpty then none
  else some { languages := settings.enabledLanguages }

end Settings

namespace Variant

/-- The name of a variant in settings. -/
def name : Variant → String
  | .strict => "strict"
  | .lenient => "lenient"

/-- The variant of a name. -/
def ofName? : String → Option Variant
  | "strict" => some .strict
  | "lenient" => some .lenient
  | _ => none

end Variant

/-- The settings as JSON. -/
def Settings.toJson (settings : Settings) : Json :=
  .ofMembers [
    ("enabledLanguages", .array (settings.enabledLanguages.map .string)),
    ("variant", .string settings.variant.name),
    ("indexWorkspace", .bool settings.indexWorkspace),
    ("maxFileSize", .nat settings.maxFileSize)]

/-- A layer as JSON, null for what it does not mention. -/
def Layer.toJson (layer : Layer) : Json :=
  .ofMembers [
    ("enabledLanguages",
      (layer.enabledLanguages.map fun languages => Json.array (languages.map .string)).getD .null),
    ("variant", (layer.variant.map fun variant => Json.string variant.name).getD .null),
    ("indexWorkspace", (layer.indexWorkspace.map Json.bool).getD .null),
    ("maxFileSize", (layer.maxFileSize.map Json.nat).getD .null)]

namespace Registration

/-- The identifier under which the definition provider is registered. -/
def id : String := "symdef/definition"

/-- The request the registration is for. -/
def method : String := "textDocument/definition"

/-- A registration as JSON. -/
def toJson (registration : Registration) : Json :=
  let filters := registration.languages.map fun language =>
    Json.ofMembers [("language", .string language)]
  .ofMembers [
    ("id", .string id),
    ("method", .string method),
    ("registerOptions", .ofMembers [("documentSelector", .array filters)])]

end Registration

end GotoDefinition
