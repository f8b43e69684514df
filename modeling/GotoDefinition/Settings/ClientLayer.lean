import GotoDefinition.Json.Decode
import GotoDefinition.Settings.Basic

/-!
# Layers sent by the client

A client sends a layer as a JSON object, flat or nested under the name of its section.
Each setting but the variant has a second spelling with underscores, and using both
spellings at once is an error.  A null stands for a setting that is not mentioned.
-/

namespace GotoDefinition

/-- The name under which editors nest the settings. -/
def settingsSection : String := "symbolDefinition"

/-- One of the four settings. -/
inductive SettingName where
  | enabledLanguages
  | variant
  | indexWorkspace
  | maxFileSize
deriving DecidableEq, Repr

namespace SettingName

/-- The name of a setting in messages. -/
def name : SettingName → String
  | .enabledLanguages => "enabledLanguages"
  | .variant => "variant"
  | .indexWorkspace => "indexWorkspace"
  | .maxFileSize => "maxFileSize"

/-- The setting that a key names in one of its spellings. -/
def ofKey? : String → Option SettingName
  | "enabledLanguages" | "enabled_languages" => some .enabledLanguages
  | "variant" => some .variant
  | "indexWorkspace" | "index_workspace" => some .indexWorkspace
  | "maxFileSize" | "max_file_size" => some .maxFileSize
  | _ => none

end SettingName

namespace Layer

open Json (Decoder DecodeError)

/-- A variant. -/
def decodeVariant : Decoder Variant :=
  Json.Decode.choice Variant.ofName? (Json.Decode.alternatives ["strict", "lenient"])

/-- The layer with the value of one setting put in. -/
def decodeSetting (layer : Layer) (setting : SettingName) (value : Json) :
    Except DecodeError Layer := do
  match setting with
  | .enabledLanguages =>
    return { layer with
      enabledLanguages := ← Json.Decode.nullable (Json.Decode.list Json.Decode.string) value }
  | .variant => return { layer with variant := ← Json.Decode.nullable decodeVariant value }
  | .indexWorkspace =>
    return { layer with indexWorkspace := ← Json.Decode.nullable Json.Decode.boolean value }
  | .maxFileSize =>
    return { layer with maxFileSize := ← Json.Decode.nullable Json.Decode.unsigned64 value }

/-- Read the members of an object one after the other; `seen` holds the settings already
read. -/
def decodeMembers (seen : List SettingName) (layer : Layer) :
    List (String × Json) → Except DecodeError Layer
  | [] => .ok layer
  | (key, value) :: rest =>
    match SettingName.ofKey? key with
    | none => decodeMembers seen layer rest
    | some setting =>
      if seen.contains setting then .error (.duplicateField setting.name)
      else do
        let layer ← decodeSetting layer setting value
        decodeMembers (setting :: seen) layer rest

/-- Read the items of an array as the settings in their order. -/
def decodeItems (layer : Layer) (index : Nat) :
    List SettingName → List Json → Except DecodeError Layer
  | [], [] => .ok layer
  | [], extra => .error (.invalidLength (index + extra.length) "fewer elements in array")
  | _ :: _, [] => .error (.invalidLength index "struct PartialSettings with 4 elements")
  | setting :: settings, item :: items => do
    let layer ← decodeSetting layer setting item
    decodeItems layer (index + 1) settings items

/-- A layer that is not nested: an object of settings, or an array of all four. -/
def decode : Decoder Layer
  | .object members => decodeMembers [] {} members
  | .array items =>
    decodeItems {} 0 [.enabledLanguages, .variant, .indexWorkspace, .maxFileSize] items
  | other => .error (.invalidType other "struct PartialSettings")

/-- A layer as a client sends it: nested under its section or flat, null being empty. -/
def ofClient (value : Json) : Except DecodeError Layer :=
  match (value.get? settingsSection).getD value with
  | .null => .ok {}
  | bare => decode bare

end Layer

end GotoDefinition
