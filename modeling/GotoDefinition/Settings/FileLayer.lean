import GotoDefinition.Disk.Basic
import GotoDefinition.Settings.Basic
import GotoDefinition.Settings.ClientLayer
import GotoDefinition.Toml.Document

/-!
# Layers in files

The user and the workspace may each have a settings file in TOML.  A missing file is no
layer, and a broken one counts as none when the settings are put together.
-/

namespace GotoDefinition

/-- Why there is no layer. -/
inductive SettingsError where
  | unreadable (path : Path) (reason : ReadError)
  | notText (path : Path)
  | malformedFile (path : Path)
  | malformedValue (reason : Json.DecodeError)

namespace SettingsError

/-- The wording of an error; that of a malformed file is left to the reader of the file. -/
def message : SettingsError → String
  | .unreadable path reason => "failed to read " ++ path.display ++ ": " ++ reason.message
  | .notText path => "failed to read " ++ path.display ++ ": stream did not contain valid UTF-8"
  | .malformedFile path => "invalid config in " ++ path.display
  | .malformedValue reason => "invalid client settings: " ++ reason.message

end SettingsError

namespace Layer

/-! ## Decoding -/

/-- A variant: its name, or a table whose single key is its name and whose value is empty. -/
def variantOfToml? : Toml.Value → Option Variant
  | .string name => Variant.ofName? name
  | .table [(name, .table [])] => Variant.ofName? name
  | .table [(name, .array [])] => Variant.ofName? name
  | _ => none

/-- A string. -/
def stringOfToml? : Toml.Value → Option String
  | .string value => some value
  | _ => none

/-- The layer with the value of one setting put in, unless it has one already. -/
def settingOfToml? (layer : Layer) (setting : SettingName) (value : Toml.Value) : Option Layer :=
  match setting, value with
  | .enabledLanguages, .array items => do
    if layer.enabledLanguages.isSome then none
    return { layer with enabledLanguages := some (← items.mapM stringOfToml?) }
  | .variant, value => do
    if layer.variant.isSome then none
    return { layer with variant := some (← variantOfToml? value) }
  | .indexWorkspace, .boolean value =>
    if layer.indexWorkspace.isSome then none else some { layer with indexWorkspace := some value }
  | .maxFileSize, .integer value =>
    if layer.maxFileSize.isSome || value < 0 || 0x10000000000000000 ≤ value then none
    else some { layer with maxFileSize := some value.toNat }
  | _, _ => none

/-- The layer that the root table of a document holds; other keys do not count. -/
def ofToml? (members : List (String × Toml.Value)) : Option Layer :=
  members.foldlM
    (fun layer (key, value) =>
      match SettingName.ofKey? key with
      | none => some layer
      | some setting => layer.settingOfToml? setting value)
    {}

/-! ## Files -/

/-- The layer in a file, none if there is no such file. -/
def ofFile (disk : Disk) (path : Path) : Except SettingsError (Option Layer) :=
  match disk.read path with
  | .error .notFound => .ok none
  | .error reason => .error (.unreadable path reason)
  | .ok bytes =>
    match Text.ofUtf8? bytes with
    | none => .error (.notText path)
    | some text =>
      match (Toml.parse? text).bind ofToml? with
      | none => .error (.malformedFile path)
      | some layer => .ok (some layer)

/-- The layer in a file, empty if the file is missing or broken. -/
def ofFileOrEmpty (disk : Disk) (path : Path) : Layer :=
  match ofFile disk path with
  | .ok (some layer) => layer
  | _ => {}

end Layer

/-- Where the user's settings file is: in the directory that the environment names for
configuration, if it names an absolute one, and otherwise in the home directory. -/
def userSettingsPath (home : Path) (configHome : Option Path) : Path :=
  let directory :=
    match configHome.filter Path.isAbsolute with
    | some directory => directory
    | none => home.join (Path.ofString ".config")
  (directory.join (Path.ofString "symdef")).join (Path.ofString "config.toml")

/-- The name of the settings file in a workspace. -/
def workspaceSettingsFile : Path := Path.ofString ".symdef.toml"

/-- The settings from the user's file, the file in the workspace root and a last layer,
each on top of the one before. -/
def Settings.ofFiles (disk : Disk) (userFile : Option Path) (root : Option Path) (extra : Layer) :
    Settings :=
  let files := userFile.toList ++ (root.map (·.join workspaceSettingsFile)).toList
  (files.foldl (fun (settings : Settings) file => settings.merge (Layer.ofFileOrEmpty disk file)) {}).merge extra

end GotoDefinition
