import GotoDefinition.Json.Printer
import GotoDefinition.Text.Quoted
import GotoDefinition.Uri.Parser

/-!
# Reading typed values out of JSON

A decoder turns a JSON value into a value of a type or says why it cannot.  The
members of an object are decoded in the order of their keys and the first problem is
the one reported; members that are missing are looked for after that, in the order of
the fields.
-/

namespace GotoDefinition.Json

/-- Why a JSON value does not have the shape it should. -/
inductive DecodeError where
  | invalidType (found : Json) (expected : String)
  | invalidValue (found : Json) (expected : String)
  | invalidLength (length : Nat) (expected : String)
  | unknownVariant (name : String) (expected : String)
  | duplicateField (name : String)
  | missingField (name : String)
  /-- None of the forms that a type allows. -/
  | noForm (name : String)
  | invalidUri (reason : UriError) (text : String)

/-- What kind of value was found. -/
def describe : Json → String
  | .null => "null"
  | .bool value => "boolean `" ++ (if value then "true" else "false") ++ "`"
  | .integer value => "integer `" ++ String.ofList (integerText value) ++ "`"
  | .float value => "floating point `" ++ String.ofList (numberLayout.writeFloat value) ++ "`"
  | .string value => "string " ++ String.ofList (Text.quoted value.toList)
  | .array _ => "sequence"
  | .object _ => "map"

/-- The wording of an error. -/
def DecodeError.message : DecodeError → String
  | .invalidType found expected => "invalid type: " ++ found.describe ++ ", expected " ++ expected
  | .invalidValue found expected => "invalid value: " ++ found.describe ++ ", expected " ++ expected
  | .invalidLength length expected =>
    "invalid length " ++ String.ofList (Text.ofNat length) ++ ", expected " ++ expected
  | .unknownVariant name expected => "unknown variant `" ++ name ++ "`, expected " ++ expected
  | .duplicateField name => "duplicate field `" ++ name ++ "`"
  | .missingField name => "missing field `" ++ name ++ "`"
  | .noForm name => "data did not match any variant of untagged enum " ++ name
  | .invalidUri reason text => reason.message ++ ": " ++ String.ofList (Text.quoted text.toList)

/-- A reader of one type of value. -/
abbrev Decoder (α : Type) := Json → Except DecodeError α

namespace Decode

/-! ## Single values -/

/-- A string. -/
def string : Decoder String
  | .string value => .ok value
  | other => .error (.invalidType other "a string")

/-- A text. -/
def text : Decoder Text := fun value =>
  (string value).map String.toList

/-- A boolean. -/
def boolean : Decoder Bool
  | .bool value => .ok value
  | other => .error (.invalidType other "a boolean")

/-- An integer from `low` to `high`; `expected` names the type. -/
def integerBetween (low high : Int) (expected : String) : Decoder Int
  | .integer value =>
    if low ≤ value ∧ value ≤ high then .ok value
    else .error (.invalidValue (.integer value) expected)
  | other => .error (.invalidType other expected)

/-- An unsigned integer of 32 bits. -/
def unsigned32 : Decoder Nat := fun value =>
  (integerBetween 0 0xFFFFFFFF "u32" value).map Int.toNat

/-- An unsigned integer of 64 bits. -/
def unsigned64 : Decoder Nat := fun value =>
  (integerBetween 0 0xFFFFFFFFFFFFFFFF "u64" value).map Int.toNat

/-- A signed integer of 32 bits. -/
def signed32 : Decoder Int :=
  integerBetween (-0x80000000) 0x7FFFFFFF "i32"

/-- A URI. -/
def uri : Decoder Uri
  | .string text =>
    match Uri.parse text.toList with
    | .ok uri => .ok uri
    | .error reason => .error (.invalidUri reason text)
  | other => .error (.invalidType other "a string representing an URL")

/-- A number of any kind; `expected` names the type. -/
def number (expected : String) : Decoder Unit
  | .integer _ | .float _ => .ok ()
  | other => .error (.invalidType other expected)

/-- One of several named values: its name, or an object whose single key is the name and
whose value is null.  `expected` lists the names. -/
def choice {α : Type} (ofName? : String → Option α) (expected : String) : Decoder α
  | .string name => named name
  | .object [(name, value)] => do
    let result ← named name
    match value with
    | .null => return result
    | other => throw (.invalidType other "unit")
  | .object members => .error (.invalidValue (.object members) "map with a single key")
  | other => .error (.invalidType other "string or map")
where
  /-- The value of a name. -/
  named (name : String) : Except DecodeError α :=
    match ofName? name with
    | some result => .ok result
    | none => .error (.unknownVariant name expected)

/-- Names in words, as what is expected. -/
def alternatives (names : List String) : String :=
  match names.map fun name => "`" ++ name ++ "`" with
  | [] => "no name"
  | [name] => name
  | [first, second] => first ++ " or " ++ second
  | several => "one of " ++ ", ".intercalate several

/-- One of several names that need not be told apart. -/
def name (names : List String) : Decoder Unit :=
  choice (fun name => if names.contains name then some () else none) (alternatives names)

/-- Any value as it is. -/
def any : Decoder Json := .ok

/-- A value that may be null. -/
def nullable {α : Type} (decoder : Decoder α) : Decoder (Option α)
  | .null => .ok none
  | other => (decoder other).map some

/-- The check that a value can be decoded. -/
def check {α : Type} (decoder : Decoder α) : Decoder Unit := fun value =>
  (decoder value).map fun _ => ()

/-- A value of one of several forms; what is wrong with each of them is not told. -/
def form (name : String) (forms : List (Decoder Unit)) : Decoder Unit := fun value =>
  if forms.any fun decoder => (decoder value).isOk then .ok () else .error (.noForm name)

/-! ## Collections -/

/-- An array of values. -/
def list {α : Type} (decoder : Decoder α) : Decoder (List α)
  | .array items => items.mapM decoder
  | other => .error (.invalidType other "a sequence")

/-- An array of two values. -/
def pair {α : Type} (decoder : Decoder α) : Decoder (α × α)
  | .array [first, second] => do return (← decoder first, ← decoder second)
  | other => .error (.invalidType other "an array of length 2")

/-- Check keys and values, each key before its value. -/
def checkEntries {α β : Type} (keys : Decoder α) (values : Decoder β) :
    List (String × Json) → Except DecodeError Unit
  | [] => .ok ()
  | (key, value) :: rest => do
    check keys (.string key)
    check values value
    checkEntries keys values rest

/-- An object whose keys are of one type and whose values are of another; `expected` names
it. -/
def dictionary {α β : Type} (expected : String) (keys : Decoder α) (values : Decoder β) :
    Decoder Unit
  | .object members => checkEntries keys values members
  | other => .error (.invalidType other expected)

/-! ## Records -/

/-- Whether a record can do without a field. -/
inductive Presence where
  /-- It cannot. -/
  | required
  /-- An object can, but in an array the place of the field must be filled. -/
  | optional
  /-- Objects and arrays can. -/
  | defaulted
deriving DecidableEq, Repr

/-- A field of a record. -/
structure Field where
  key : String
  presence : Presence
  check : Decoder Unit

namespace Field

/-- A field that must be there. -/
def required {α : Type} (key : String) (decoder : Decoder α) : Field :=
  { key, presence := .required, check := Decode.check decoder }

/-- A field that may be missing or null. -/
def optional {α : Type} (key : String) (decoder : Decoder α) : Field :=
  { key, presence := .optional, check := Decode.check (nullable decoder) }

/-- A field that may be missing, also from an array. -/
def defaulted {α : Type} (key : String) (decoder : Decoder α) : Field :=
  { key, presence := .defaulted, check := Decode.check decoder }

end Field

/-- Check the members that are known, one after the other. -/
def checkMembers (fields : List Field) : List (String × Json) → Except DecodeError Unit
  | [] => .ok ()
  | (key, value) :: rest => do
    match fields.find? (·.key == key) with
    | some field => field.check value
    | none => pure ()
    checkMembers fields rest

/-- Check that no required member is missing. -/
def checkMissing (members : List (String × Json)) : List Field → Except DecodeError Unit
  | [] => .ok ()
  | field :: rest =>
    if field.presence = .required ∧ (members.lookup field.key).isNone then
      .error (.missingField field.key)
    else checkMissing members rest

/-- Check the members of an object. -/
def checkObject (fields : List Field) (members : List (String × Json)) : Except DecodeError Unit := do
  checkMembers fields members
  checkMissing members fields

/-- Check the items of an array against the fields in their order.  Items beyond the last
field are not looked at. -/
def checkItems (fields : List Field) (items : List Json) (index : Nat) (expected : String) :
    Except DecodeError Unit :=
  match fields, items with
  | [], _ => .ok ()
  | field :: fields, [] =>
    if field.presence = .defaulted then checkItems fields [] (index + 1) expected
    else .error (.invalidLength index expected)
  | field :: fields, item :: items => do
    field.check item
    checkItems fields items (index + 1) expected

/-- So many elements, in words. -/
def elementCount (count : Nat) : String :=
  String.ofList (Text.ofNat count) ++ (if count = 1 then " element" else " elements")

/-- Where a record stands: by itself, or in an object whose members several shapes
share. -/
inductive Setting where
  | alone
  | shared
deriving DecidableEq, Repr

/-- What is expected instead of an array of more than `count` items. -/
def Setting.shorter : Setting → Nat → String
  | .alone, _ => "fewer elements in array"
  | .shared, count => elementCount count ++ " in sequence"

/-- The members of a record in some setting: an object with any further members, or an
array with one item for each field. -/
def recordIn (setting : Setting) (name : String) (fields : List Field) :
    Decoder (List (String × Json))
  | .object members => do
    checkObject fields members
    return members
  | .array items => do
    checkItems fields items 0 ("struct " ++ name ++ " with " ++ elementCount fields.length)
    if fields.length < items.length then
      throw (.invalidLength items.length (setting.shorter fields.length))
    return (fields.map Field.key).zip items
  | other => .error (.invalidType other ("struct " ++ name))

/-- The members of a record by itself. -/
def record : String → List Field → Decoder (List (String × Json)) :=
  recordIn .alone

/-- The members of an object that several groups of fields share.  Each group is checked
after the one before it, and an array is not accepted. -/
def sharedRecord (name : String) (groups : List (List Field)) : Decoder (List (String × Json))
  | .object members => do
    groups.forM (checkObject · members)
    return members
  | other => .error (.invalidType other ("struct " ++ name))

/-- A record whose content does not matter. -/
def shape (name : String) (fields : List Field) : Decoder Unit :=
  check (record name fields)

/-- A record with several groups of fields whose content does not matter. -/
def sharedShape (name : String) (groups : List (List Field)) : Decoder Unit :=
  check (sharedRecord name groups)

/-- The value of a member that must be there. -/
def member {α : Type} (members : List (String × Json)) (key : String) (decoder : Decoder α) :
    Except DecodeError α :=
  match members.lookup key with
  | some value => decoder value
  | none => .error (.missingField key)

/-- The value of a member that may be missing or null. -/
def member? {α : Type} (members : List (String × Json)) (key : String) (decoder : Decoder α) :
    Except DecodeError (Option α) :=
  match members.lookup key with
  | some value => nullable decoder value
  | none => .ok none

end Decode

end GotoDefinition.Json
