import GotoDefinition.Proofs.Json.Members
import GotoDefinition.Settings.ClientLayer
import Mathlib.Data.List.Pairwise
import Mathlib.Data.List.Sort

/-!
# What a client's layer says

Seven keys of an object count: two spellings of each setting, and the one of the variant.  The
members are read in key order, and what is read depends on the settings they name alone
(`decodeMembers_inCamelCase`).  Keys that name no setting are passed over, and no other key that
counts lies between the two spellings of a setting.  So the outcome, be it a layer or an error, is
a function of what is found under the seven keys, and not of how the settings are spelled.
-/

namespace GotoDefinition

open Json (Decoder DecodeError InKeyOrder renameMember)

/-! ## Values of the settings -/

namespace SettingName

/-- The keys that name a setting. -/
def spellings : SettingName → List String
  | .enabledLanguages => ["enabledLanguages", "enabled_languages"]
  | .variant => ["variant"]
  | .indexWorkspace => ["indexWorkspace", "index_workspace"]
  | .maxFileSize => ["maxFileSize", "max_file_size"]

abbrev Value : SettingName → Type
  | .enabledLanguages => List String
  | .variant => Variant
  | .indexWorkspace => Bool
  | .maxFileSize => Nat

/-- The JSON values that stand for a value of a setting. -/
def Denotes : (setting : SettingName) → Json → setting.Value → Prop
  | .enabledLanguages, value, languages => value = .array (languages.map .string)
  | .variant, value, chosen =>
    value = .string chosen.name ∨ value = .object [(chosen.name, .null)]
  | .indexWorkspace, value, flag => value = .bool flag
  | .maxFileSize, value, size => value = .nat size ∧ size < 2 ^ 64

/-- The JSON values that a setting may have. -/
def Accepts (setting : SettingName) (value : Json) : Prop :=
  value = .null ∨ ∃ content, setting.Denotes value content

def decoder : (setting : SettingName) → Decoder setting.Value
  | .enabledLanguages => Json.Decode.list Json.Decode.string
  | .variant => Layer.decodeVariant
  | .indexWorkspace => Json.Decode.boolean
  | .maxFileSize => Json.Decode.unsigned64

theorem ofKey?_eq_some_iff {key : String} {setting : SettingName} :
    ofKey? key = some setting ↔ key ∈ setting.spellings := by
  constructor
  · intro named
    unfold ofKey? at named
    split at named <;> cases named <;> simp [spellings]
  · intro isSpelling
    cases setting <;> simp only [spellings, List.mem_cons, List.not_mem_nil, or_false] at isSpelling
    case variant => subst isSpelling; rfl
    all_goals rcases isSpelling with rfl | rfl <;> rfl

end SettingName

theorem Variant.ofName?_eq_some_iff {name : String} {variant : Variant} :
    ofName? name = some variant ↔ name = variant.name := by
  constructor
  · intro named
    unfold ofName? at named
    split at named <;> cases named <;> rfl
  · rintro rfl
    cases variant <;> rfl

namespace Json

theorem bind_eq_ok_iff {α β : Type} {first : Except DecodeError α}
    {next : α → Except DecodeError β} {result : β} :
    (first >>= next) = .ok result ↔ ∃ content, first = .ok content ∧ next content = .ok result := by
  cases first <;> simp [bind, Except.bind]

theorem map_eq_ok_iff {α β : Type} {first : Except DecodeError α} {f : α → β} {result : β} :
    first.map f = .ok result ↔ ∃ content, first = .ok content ∧ f content = result := by
  cases first <;> simp [Except.map]

namespace Decode

theorem string_eq_ok_iff {value : Json} {text : String} :
    string value = .ok text ↔ value = .string text := by
  cases value <;> simp [string]

theorem mapM_string_eq_ok_iff {items : List Json} {texts : List String} :
    items.mapM string = .ok texts ↔ items = texts.map .string := by
  induction items generalizing texts with
  | nil => cases texts <;> simp [pure, Except.pure]
  | cons item items ih =>
    simp only [List.mapM_cons, bind_eq_ok_iff, string_eq_ok_iff, ih, pure, Except.pure,
      Except.ok.injEq]
    cases texts with
    | nil => simp
    | cons text texts => simp [eq_comm]

theorem list_string_eq_ok_iff {value : Json} {texts : List String} :
    list string value = .ok texts ↔ value = .array (texts.map .string) := by
  cases value with
  | array items => simp [list, mapM_string_eq_ok_iff]
  | _ => simp [list]

theorem boolean_eq_ok_iff {value : Json} {flag : Bool} :
    boolean value = .ok flag ↔ value = .bool flag := by
  cases value <;> simp [boolean]

theorem unsigned64_eq_ok_iff {value : Json} {size : Nat} :
    unsigned64 value = .ok size ↔ value = .nat size ∧ size < 2 ^ 64 := by
  cases value with
  | integer number =>
    simp only [unsigned64, integerBetween, nat, Json.integer.injEq]
    split
    next fits =>
      simp only [Except.map, Except.ok.injEq]
      omega
    next outside =>
      simp only [Except.map, reduceCtorEq, false_iff]
      omega
  | _ => simp [unsigned64, integerBetween, nat, Except.map]

theorem choice_eq_ok_iff {α : Type} {ofName? : String → Option α} {expected : String}
    {value : Json} {chosen : α} :
    choice ofName? expected value = .ok chosen ↔
      ∃ name, ofName? name = some chosen ∧
        (value = .string name ∨ value = .object [(name, .null)]) := by
  have named_eq_ok_iff : ∀ name, choice.named ofName? expected name = .ok chosen ↔
      ofName? name = some chosen := by
    intro name
    unfold choice.named
    cases ofName? name <;> simp
  cases value with
  | string name => simp [choice, named_eq_ok_iff]
  | object members =>
    match members with
    | [] => simp [choice]
    | [(name, content)] =>
      simp only [choice, bind_eq_ok_iff]
      cases content <;> simp [named_eq_ok_iff, pure, Except.pure, throw, throwThe,
        MonadExceptOf.throw]
    | first :: second :: rest => simp [choice]
  | _ => simp [choice]

end Decode

end Json

theorem SettingName.decoder_eq_ok_iff {setting : SettingName} {value : Json}
    {content : setting.Value} :
    setting.decoder value = .ok content ↔ setting.Denotes value content := by
  cases setting with
  | enabledLanguages => exact Json.Decode.list_string_eq_ok_iff
  | variant =>
    unfold Denotes decoder Layer.decodeVariant
    simp [Json.Decode.choice_eq_ok_iff, Variant.ofName?_eq_some_iff]
  | indexWorkspace => exact Json.Decode.boolean_eq_ok_iff
  | maxFileSize => exact Json.Decode.unsigned64_eq_ok_iff

namespace Layer

def value? (layer : Layer) : (setting : SettingName) → Option setting.Value
  | .enabledLanguages => layer.enabledLanguages
  | .variant => layer.variant
  | .indexWorkspace => layer.indexWorkspace
  | .maxFileSize => layer.maxFileSize

def put (layer : Layer) : (setting : SettingName) → Option setting.Value → Layer
  | .enabledLanguages, languages => { layer with enabledLanguages := languages }
  | .variant, variant => { layer with variant }
  | .indexWorkspace, flag => { layer with indexWorkspace := flag }
  | .maxFileSize, size => { layer with maxFileSize := size }

@[simp] theorem value?_empty (setting : SettingName) : ({} : Layer).value? setting = none := by
  cases setting <;> rfl

@[simp] theorem value?_put_self (layer : Layer) (setting : SettingName)
    (content : Option setting.Value) : (layer.put setting content).value? setting = content := by
  cases setting <;> rfl

theorem value?_put_of_ne (layer : Layer) {setting other : SettingName} (differ : other ≠ setting)
    (content : Option setting.Value) :
    (layer.put setting content).value? other = layer.value? other := by
  cases setting <;> cases other <;> first | rfl | exact absurd rfl differ

theorem decodeSetting_eq (layer : Layer) (setting : SettingName) (value : Json) :
    decodeSetting layer setting value =
      (Json.Decode.nullable setting.decoder value).map (layer.put setting) := by
  cases setting <;>
    simp only [decodeSetting, SettingName.decoder, bind_pure_comp] <;> rfl

theorem exists_decodeSetting_iff (layer : Layer) {setting : SettingName} {value : Json} :
    (∃ next, decodeSetting layer setting value = .ok next) ↔ setting.Accepts value := by
  simp only [decodeSetting_eq, Json.map_eq_ok_iff, SettingName.Accepts,
    ← SettingName.decoder_eq_ok_iff]
  cases value with
  | null => simp [Json.Decode.nullable]
  | _ => simp [Json.Decode.nullable, Json.map_eq_ok_iff]

/-- Reading a value puts in what it denotes. -/
theorem exists_put_of_decodeSetting {layer next : Layer} {setting : SettingName} {value : Json}
    (decoded : decodeSetting layer setting value = .ok next) :
    ∃ content, next = layer.put setting content ∧
      ∀ found, content = some found ↔ setting.Denotes value found := by
  rw [decodeSetting_eq, Json.map_eq_ok_iff] at decoded
  obtain ⟨content, read, rfl⟩ := decoded
  refine ⟨content, rfl, fun found => ?_⟩
  rw [← SettingName.decoder_eq_ok_iff]
  cases value with
  | null =>
    obtain rfl : none = content := Except.ok.inj read
    cases setting <;> simp [SettingName.decoder, Json.Decode.list, decodeVariant,
      Json.Decode.choice, Json.Decode.boolean, Json.Decode.unsigned64,
      Json.Decode.integerBetween, Except.map]
  | _ =>
    obtain ⟨result, decoded, rfl⟩ := Json.map_eq_ok_iff.1 read
    rw [decoded]
    simp

/-! ## Members one after the other -/

variable {seen : List SettingName} {layer next : Layer} {members : List (String × Json)}
  {setting : SettingName}

theorem decodeMembers_cons_of_unknown {key : String} (unknown : SettingName.ofKey? key = none)
    (seen : List SettingName) (layer : Layer) (value : Json) (rest : List (String × Json)) :
    decodeMembers seen layer ((key, value) :: rest) = decodeMembers seen layer rest := by
  rw [decodeMembers, unknown]

theorem decodeMembers_cons_of_named {key : String} (named : SettingName.ofKey? key = some setting)
    (seen : List SettingName) (layer : Layer) (value : Json) (rest : List (String × Json)) :
    decodeMembers seen layer ((key, value) :: rest) =
      if setting ∈ seen then .error (.duplicateField setting.name)
      else decodeSetting layer setting value >>= fun next =>
        decodeMembers (setting :: seen) next rest := by
  rw [decodeMembers, named]
  simp

/-- Members that can be read when some settings were seen before: each setting they name is new
and has a value that it may have. -/
structure Readable (seen : List SettingName) (members : List (String × Json)) : Prop where
  new : ∀ member ∈ members, ∀ setting, SettingName.ofKey? member.1 = some setting → setting ∉ seen
  accepted : ∀ member ∈ members, ∀ setting, SettingName.ofKey? member.1 = some setting →
    setting.Accepts member.2
  once : members.Pairwise fun member later => ∀ setting,
    SettingName.ofKey? member.1 = some setting → SettingName.ofKey? later.1 ≠ some setting

theorem readable_cons_of_unknown {key : String} (unknown : SettingName.ofKey? key = none)
    (value : Json) : Readable seen ((key, value) :: members) ↔ Readable seen members := by
  constructor
  · rintro ⟨new, accepted, once⟩
    exact ⟨(List.forall_mem_cons.1 new).2, (List.forall_mem_cons.1 accepted).2,
      (List.pairwise_cons.1 once).2⟩
  · rintro ⟨new, accepted, once⟩
    exact ⟨List.forall_mem_cons.2 ⟨by simp [unknown], new⟩,
      List.forall_mem_cons.2 ⟨by simp [unknown], accepted⟩,
      List.pairwise_cons.2 ⟨by simp [unknown], once⟩⟩

theorem readable_cons_of_named {key : String} (named : SettingName.ofKey? key = some setting)
    (value : Json) :
    Readable seen ((key, value) :: members) ↔
      setting ∉ seen ∧ setting.Accepts value ∧ Readable (setting :: seen) members := by
  constructor
  · rintro ⟨new, accepted, once⟩
    obtain ⟨notAgain, once⟩ := List.pairwise_cons.1 once
    refine ⟨new _ List.mem_cons_self setting named, accepted _ List.mem_cons_self setting named,
      ?_, (List.forall_mem_cons.1 accepted).2, once⟩
    intro member isMember other isNamed
    have differ : other ≠ setting := by
      rintro rfl
      exact notAgain member isMember other named isNamed
    exact List.not_mem_cons_of_ne_of_not_mem differ
      (new member (List.mem_cons_of_mem _ isMember) other isNamed)
  · rintro ⟨notSeen, accepts, new, accepted, once⟩
    refine ⟨List.forall_mem_cons.2 ⟨by simpa [named] using notSeen, ?_⟩,
      List.forall_mem_cons.2 ⟨by simpa [named] using accepts, accepted⟩,
      List.pairwise_cons.2 ⟨?_, once⟩⟩
    · intro member isMember other isNamed
      exact List.not_mem_of_not_mem_cons (new member isMember other isNamed)
    · intro member isMember other isNamed again
      obtain rfl : setting = other := Option.some.inj (named.symm.trans isNamed)
      exact new member isMember setting again List.mem_cons_self

theorem exists_decodeMembers_iff :
    (∃ next, decodeMembers seen layer members = .ok next) ↔ Readable seen members := by
  induction members generalizing seen layer with
  | nil => exact ⟨fun _ => ⟨by simp, by simp, .nil⟩, fun _ => ⟨layer, rfl⟩⟩
  | cons member rest ih =>
    obtain ⟨key, value⟩ := member
    cases named : SettingName.ofKey? key with
    | none => rw [decodeMembers_cons_of_unknown named, readable_cons_of_unknown named, ih]
    | some setting =>
      rw [decodeMembers_cons_of_named named, readable_cons_of_named named]
      by_cases again : setting ∈ seen
      · simp [again]
      · rw [if_neg again, ← exists_decodeSetting_iff layer]
        simp only [Json.bind_eq_ok_iff, again, not_false_eq_true, true_and]
        constructor
        · rintro ⟨next, middle, first, others⟩
          exact ⟨⟨middle, first⟩, ih.1 ⟨next, others⟩⟩
        · rintro ⟨⟨middle, first⟩, readable⟩
          obtain ⟨next, others⟩ : ∃ next, decodeMembers (setting :: seen) middle rest = .ok next :=
            ih.2 readable
          exact ⟨next, middle, first, others⟩

/-- What was read under a setting, and where nothing was, what the layer had before. -/
theorem value?_decodeMembers (decoded : decodeMembers seen layer members = .ok next)
    (setting : SettingName) (content : setting.Value) :
    next.value? setting = some content ↔
      (∃ member ∈ members, SettingName.ofKey? member.1 = some setting ∧
        setting.Denotes member.2 content) ∨
      (∀ member ∈ members, SettingName.ofKey? member.1 ≠ some setting) ∧
        layer.value? setting = some content := by
  induction members generalizing seen layer with
  | nil =>
    obtain rfl : layer = next := Except.ok.inj decoded
    simp
  | cons member rest ih =>
    obtain ⟨key, value⟩ := member
    cases named : SettingName.ofKey? key with
    | none =>
      rw [decodeMembers_cons_of_unknown named] at decoded
      simp [ih decoded, named]
    | some given =>
      rw [decodeMembers_cons_of_named named] at decoded
      split at decoded
      · cases decoded
      next fresh =>
        obtain ⟨middle, first, others⟩ := Json.bind_eq_ok_iff.1 decoded
        obtain ⟨found, rfl, denotes⟩ := exists_put_of_decodeSetting first
        have notAgain : ∀ member ∈ rest, SettingName.ofKey? member.1 ≠ some given :=
          fun member isMember again =>
            (exists_decodeMembers_iff.1 ⟨next, others⟩).new member isMember given again
              List.mem_cons_self
        rw [ih others]
        by_cases same : setting = given
        · subst same
          have onlyHere : ¬ ∃ member ∈ rest, SettingName.ofKey? member.1 = some setting ∧
              setting.Denotes member.2 content :=
            fun ⟨member, isMember, again, _⟩ => notAgain member isMember again
          rw [value?_put_self, denotes, List.exists_mem_cons_iff, List.forall_mem_cons]
          simp only [onlyHere, named, ne_eq, not_true_eq_false, false_and, or_false, false_or,
            true_and, and_iff_right_iff_imp]
          exact fun _ => notAgain
        · have differ : some given ≠ some setting := fun equal => same (Option.some.inj equal).symm
          simp [value?_put_of_ne layer same, named, differ]

/-- The settings that members name, in their order. -/
def settingsNamed (members : List (String × Json)) : List SettingName :=
  members.filterMap fun member => SettingName.ofKey? member.1

/-- What is wrong with a value when some settings were seen before it. -/
def Problem (seen : List SettingName) (setting : SettingName) (value : Json)
    (reason : DecodeError) : Prop :=
  setting ∈ seen ∧ reason = .duplicateField setting.name ∨
    setting ∉ seen ∧ Json.Decode.nullable setting.decoder value = .error reason

theorem problem_of_decodeMembers_cons {key : String} {value : Json} {rest : List (String × Json)}
    {reason : DecodeError} (named : SettingName.ofKey? key = some setting)
    (failed : decodeMembers seen layer ((key, value) :: rest) = .error reason) :
    Problem seen setting value reason ∨
      ∃ next, decodeMembers seen layer [(key, value)] = .ok next ∧
        decodeMembers (setting :: seen) next rest = .error reason := by
  rw [decodeMembers_cons_of_named named] at failed
  rw [decodeMembers_cons_of_named named]
  split at failed
  next again => exact .inl (.inl ⟨again, (Except.error.inj failed).symm⟩)
  next new =>
    rw [if_neg new]
    rw [decodeSetting_eq] at failed ⊢
    cases read : Json.Decode.nullable setting.decoder value with
    | error problem =>
      rw [read] at failed
      obtain rfl : problem = reason := Except.error.inj failed
      exact .inl (.inr ⟨new, read⟩)
    | ok content =>
      rw [read] at failed
      exact .inr ⟨layer.put setting content, rfl, failed⟩

/-- The problem that is reported is the first one: the members before it can be read. -/
theorem exists_problem_of_decodeMembers {reason : DecodeError}
    (failed : decodeMembers seen layer members = .error reason) :
    ∃ front key value back setting, members = front ++ (key, value) :: back ∧
      Readable seen front ∧ SettingName.ofKey? key = some setting ∧
      Problem (settingsNamed front ++ seen) setting value reason := by
  induction members generalizing seen layer with
  | nil => cases failed
  | cons member rest ih =>
    obtain ⟨key, value⟩ := member
    cases named : SettingName.ofKey? key with
    | none =>
      rw [decodeMembers_cons_of_unknown named] at failed
      obtain ⟨front, later, content, back, setting, rfl, readable, isNamed, problem⟩ := ih failed
      refine ⟨(key, value) :: front, later, content, back, setting, rfl,
        (readable_cons_of_unknown named value).2 readable, isNamed, ?_⟩
      simpa [settingsNamed, named] using problem
    | some given =>
      rcases problem_of_decodeMembers_cons named failed with problem | ⟨next, first, failed⟩
      · exact ⟨[], key, value, rest, given, rfl, exists_decodeMembers_iff.1 ⟨layer, rfl⟩, named,
          problem⟩
      · obtain ⟨front, later, content, back, setting, rfl, readable, isNamed, problem⟩ := ih failed
        obtain ⟨new, accepts, -⟩ :=
          (readable_cons_of_named named value).1 (exists_decodeMembers_iff.1 ⟨next, first⟩)
        refine ⟨(key, value) :: front, later, content, back, setting, rfl,
          (readable_cons_of_named named value).2 ⟨new, accepts, readable⟩, isNamed, ?_⟩
        simpa [Problem, settingsNamed, named, or_left_comm, and_left_comm] using problem

/-! ## Spellings -/

/-- The keys that count, in their order, with the settings they name. -/
def spelledKeys : List (String × SettingName) :=
  [("enabledLanguages", .enabledLanguages), ("enabled_languages", .enabledLanguages),
    ("indexWorkspace", .indexWorkspace), ("index_workspace", .indexWorkspace),
    ("maxFileSize", .maxFileSize), ("max_file_size", .maxFileSize), ("variant", .variant)]

theorem mem_spelledKeys_iff {key : String} :
    (key, setting) ∈ spelledKeys ↔ SettingName.ofKey? key = some setting := by
  rw [SettingName.ofKey?_eq_some_iff]
  cases setting <;> simp [spelledKeys, SettingName.spellings]

/-- The members that name settings, each under the name of its setting. -/
def inCamelCase (members : List (String × Json)) : List (String × Json) :=
  members.filterMap fun member =>
    (SettingName.ofKey? member.1).map fun setting => (setting.name, member.2)

theorem decodeMembers_inCamelCase (seen : List SettingName) (layer : Layer)
    (members : List (String × Json)) :
    decodeMembers seen layer (inCamelCase members) = decodeMembers seen layer members := by
  have ofKey?_name : ∀ setting : SettingName, SettingName.ofKey? setting.name = some setting := by
    rintro (_ | _ | _ | _) <;> rfl
  induction members generalizing seen layer with
  | nil => rfl
  | cons member rest ih =>
    obtain ⟨key, value⟩ := member
    cases named : SettingName.ofKey? key with
    | none =>
      rw [decodeMembers_cons_of_unknown named, ← ih]
      simp [inCamelCase, named]
    | some setting =>
      have cons_eq : inCamelCase ((key, value) :: rest) =
          (setting.name, value) :: inCamelCase rest := by
        simp [inCamelCase, named]
      simp only [cons_eq, decodeMembers_cons_of_named (ofKey?_name setting),
        decodeMembers_cons_of_named named, ih]

/-- The members that count are what is found under the keys that count, in their order. -/
theorem filter_ofKey?_eq (ordered : InKeyOrder members) :
    members.filter (fun member => (SettingName.ofKey? member.1).isSome) =
      spelledKeys.filterMap fun spelled =>
        (members.lookup spelled.1).map fun value => (spelled.1, value) := by
  have irrefl : Std.Irrefl fun member later : String × Json => member.1 < later.1 :=
    ⟨fun member => lt_irrefl member.1⟩
  have antisymm : Std.Antisymm fun member later : String × Json => member.1 < later.1 :=
    ⟨fun member later before after => absurd before (lt_asymm after)⟩
  have spelledInOrder : spelledKeys.Pairwise fun spelled later => spelled.1 < later.1 := by
    decide +kernel
  refine (ordered.sublist List.filter_sublist).eq_of_mem_iff ?_ ?_
  · refine spelledInOrder.filterMap _ ?_
    intro spelled later before member found other otherFound
    obtain ⟨value, -, rfl⟩ := Option.map_eq_some_iff.1 found
    obtain ⟨otherValue, -, rfl⟩ := Option.map_eq_some_iff.1 otherFound
    exact before
  · rintro ⟨key, value⟩
    simp only [List.mem_filter, List.mem_filterMap, Option.map_eq_some_iff,
      ordered.lookup_eq_some_iff, Option.isSome_iff_exists, Prod.exists, mem_spelledKeys_iff,
      Prod.mk.injEq]
    constructor
    · rintro ⟨isMember, setting, named⟩
      exact ⟨key, setting, named, value, isMember, rfl, rfl⟩
    · rintro ⟨_, setting, named, _, isMember, rfl, rfl⟩
      exact ⟨isMember, setting, named⟩

theorem inCamelCase_eq (ordered : InKeyOrder members) :
    inCamelCase members =
      spelledKeys.filterMap fun spelled =>
        (members.lookup spelled.1).map fun value => (spelled.2.name, value) := by
  have onlyNamed : inCamelCase members =
      inCamelCase (members.filter fun member => (SettingName.ofKey? member.1).isSome) := by
    rw [inCamelCase, inCamelCase, List.filterMap_filter]
    refine List.filterMap_congr fun member _ => ?_
    cases named : SettingName.ofKey? member.1 <;> simp
  rw [onlyNamed, filter_ofKey?_eq ordered, inCamelCase, List.filterMap_filterMap]
  refine List.filterMap_congr fun spelled isSpelled => ?_
  cases members.lookup spelled.1 with
  | none => rfl
  | some value => simp [mem_spelledKeys_iff.1 isSpelled]

theorem decode_congr {others : List (String × Json)} (ordered : InKeyOrder members)
    (othersOrdered : InKeyOrder others)
    (same : ∀ setting : SettingName, ∀ key ∈ setting.spellings,
      others.lookup key = members.lookup key) :
    decode (.object others) = decode (.object members) := by
  have same_inCamelCase : inCamelCase others = inCamelCase members := by
    rw [inCamelCase_eq ordered, inCamelCase_eq othersOrdered]
    refine List.filterMap_congr fun spelled isSpelled => ?_
    rw [same spelled.2 spelled.1
      (SettingName.ofKey?_eq_some_iff.1 (mem_spelledKeys_iff.1 isSpelled))]
  rw [decode, decode, ← decodeMembers_inCamelCase, same_inCamelCase, decodeMembers_inCamelCase]

/-- Between the two spellings of a setting no other key counts. -/
theorem decode_renameMember (ordered : InKeyOrder members) {old new : String}
    (isOld : old ∈ setting.spellings) (isNew : new ∈ setting.spellings)
    (free : members.lookup new = none) :
    decode (.object (renameMember old new members)) = decode (.object members) := by
  have same_inCamelCase : inCamelCase (renameMember old new members) = inCamelCase members := by
    rw [inCamelCase_eq ordered, inCamelCase_eq (Json.inKeyOrder_renameMember ordered old new)]
    simp only [spelledKeys, List.filterMap_cons, List.filterMap_nil,
      ordered.lookup_renameMember free]
    cases setting <;>
      simp only [SettingName.spellings, List.mem_cons, List.not_mem_nil, or_false] at isOld isNew
    case variant =>
      subst isOld isNew
      simp [free]
    all_goals
      rcases isOld with rfl | rfl <;> rcases isNew with rfl | rfl <;> simp [free]
  rw [decode, decode, ← decodeMembers_inCamelCase, same_inCamelCase, decodeMembers_inCamelCase]

/-! ## Whole layers -/

/-- No setting is written under two of its spellings. -/
def SpelledOnce (members : List (String × Json)) : Prop :=
  ∀ setting : SettingName, ∀ key ∈ setting.spellings, ∀ other ∈ setting.spellings, key ≠ other →
    (members.lookup key).isSome → members.lookup other = none

theorem readable_nil_iff (ordered : InKeyOrder members) :
    Readable [] members ↔
      SpelledOnce members ∧ ∀ setting : SettingName, ∀ key ∈ setting.spellings, ∀ value,
        members.lookup key = some value → setting.Accepts value := by
  constructor
  · rintro ⟨-, accepted, once⟩
    constructor
    · intro setting key isSpelling other isOther differ present
      obtain ⟨value, found⟩ := Option.isSome_iff_exists.1 present
      rw [Option.eq_none_iff_forall_ne_some]
      intro otherValue otherFound
      rw [ordered.lookup_eq_some_iff] at found otherFound
      have symm : Std.Symm fun member later : String × Json => ∀ setting,
          SettingName.ofKey? member.1 = some setting → SettingName.ofKey? later.1 ≠ some setting :=
        ⟨fun member later notBoth setting isLater isMember => notBoth setting isMember isLater⟩
      exact once.forall found otherFound (by simp [differ]) setting
        (SettingName.ofKey?_eq_some_iff.2 isSpelling) (SettingName.ofKey?_eq_some_iff.2 isOther)
    · intro setting key isSpelling value found
      exact accepted _ (ordered.lookup_eq_some_iff.1 found) setting
        (SettingName.ofKey?_eq_some_iff.2 isSpelling)
  · rintro ⟨spelledOnce, accepted⟩
    refine ⟨by simp, ?_, ordered.imp_of_mem ?_⟩
    · intro member isMember setting named
      exact accepted setting member.1 (SettingName.ofKey?_eq_some_iff.1 named) member.2
        (ordered.lookup_eq_some_iff.2 isMember)
    · intro member later isMember isLater before setting named again
      have found := ordered.lookup_eq_some_iff.2 isMember
      have laterFound := ordered.lookup_eq_some_iff.2 isLater
      have absent := spelledOnce setting member.1 (SettingName.ofKey?_eq_some_iff.1 named) later.1
        (SettingName.ofKey?_eq_some_iff.1 again) before.ne (by simp [found])
      rw [absent] at laterFound
      cases laterFound

theorem value?_of_decode (ordered : InKeyOrder members)
    (decoded : decode (.object members) = .ok layer) (setting : SettingName)
    (content : setting.Value) :
    layer.value? setting = some content ↔
      ∃ key ∈ setting.spellings, ∃ value, members.lookup key = some value ∧
        setting.Denotes value content := by
  rw [value?_decodeMembers decoded, value?_empty]
  simp only [reduceCtorEq, and_false, or_false, SettingName.ofKey?_eq_some_iff, Prod.exists,
    ordered.lookup_eq_some_iff]
  constructor
  · rintro ⟨key, value, isMember, isSpelling, denotes⟩
    exact ⟨key, isSpelling, value, isMember, denotes⟩
  · rintro ⟨key, isSpelling, value, isMember, denotes⟩
    exact ⟨key, value, isMember, isSpelling, denotes⟩

theorem ofClient_of_flat (flat : members.lookup settingsSection = none) :
    ofClient (.object members) = decode (.object members) := by
  simp [ofClient, Json.get?, flat]

/-- A client's object that is not nested is read exactly.  There is a layer if and only if no
setting is written under two spellings and each one that is written is null or denotes a value;
the layer has the values that are denoted and nothing else, and an error is that of the first
member in key order that has a problem.  Keys that name no setting make no difference, nor does
the spelling of a setting, nor that the object, or null, is nested among other members. -/
theorem ofClient_exact (ordered : InKeyOrder members)
    (flat : members.lookup settingsSection = none) :
    ((∃ layer, ofClient (.object members) = .ok layer) ↔
      SpelledOnce members ∧ ∀ setting : SettingName, ∀ key ∈ setting.spellings, ∀ value,
        members.lookup key = some value → setting.Accepts value) ∧
    (∀ layer, ofClient (.object members) = .ok layer →
      ∀ (setting : SettingName) (content : setting.Value),
        layer.value? setting = some content ↔
          ∃ key ∈ setting.spellings, ∃ value, members.lookup key = some value ∧
            setting.Denotes value content) ∧
    (∀ reason, ofClient (.object members) = .error reason →
      ∃ front key value back setting, members = front ++ (key, value) :: back ∧
        (∃ layer, ofClient (.object front) = .ok layer) ∧
        key ∈ setting.spellings ∧ Problem (settingsNamed front) setting value reason) ∧
    (∀ others, InKeyOrder others → others.lookup settingsSection = none →
      (∀ setting : SettingName, ∀ key ∈ setting.spellings,
        others.lookup key = members.lookup key) →
      ofClient (.object others) = ofClient (.object members)) ∧
    (∀ (setting : SettingName) (old new : String), old ∈ setting.spellings →
      new ∈ setting.spellings → members.lookup new = none →
      ofClient (.object (renameMember old new members)) = ofClient (.object members)) ∧
    (∀ siblings, siblings.lookup settingsSection = some (.object members) →
      ofClient (.object siblings) = ofClient (.object members)) ∧
    ofClient .null = .ok {} ∧
    ∀ siblings, siblings.lookup settingsSection = some .null →
      ofClient (.object siblings) = ofClient .null := by
  rw [ofClient_of_flat flat]
  refine ⟨?_, ?_, ?_, ?_, ?_, ?_, rfl, ?_⟩
  · exact exists_decodeMembers_iff.trans (readable_nil_iff ordered)
  · intro layer decoded
    exact value?_of_decode ordered decoded
  · intro reason failed
    obtain ⟨front, key, value, back, setting, rfl, readable, named, problem⟩ :=
      exists_problem_of_decodeMembers failed
    rw [List.append_nil] at problem
    rw [List.lookup_append, Option.or_eq_none_iff] at flat
    refine ⟨front, key, value, back, setting, rfl, ?_, SettingName.ofKey?_eq_some_iff.1 named,
      problem⟩
    rw [ofClient_of_flat flat.1]
    exact exists_decodeMembers_iff.2 readable
  · intro others othersOrdered othersFlat same
    rw [ofClient_of_flat othersFlat]
    exact decode_congr ordered othersOrdered same
  · intro setting old new isOld isNew free
    have notSection : ∀ key ∈ setting.spellings, settingsSection ≠ key := by
      cases setting <;> decide
    have renamedFlat : (renameMember old new members).lookup settingsSection = none := by
      rw [ordered.lookup_renameMember free, if_neg (notSection new isNew),
        if_neg (notSection old isOld), flat]
    rw [ofClient_of_flat renamedFlat]
    exact decode_renameMember ordered isOld isNew free
  · intro siblings nested
    simp [ofClient, Json.get?, nested]
  · intro siblings nested
    simp [ofClient, Json.get?, nested]

/-- Both spellings, both forms of a variant, a null and a key that means nothing here. -/
theorem ofClient_exact_of_mixed_spellings :
    let members : List (String × Json) :=
      [("enabled_languages", .array [.string "go"]), ("maxFileSize", .null),
        ("theme", .bool true), ("variant", .object [("lenient", .null)])]
    let layer : Layer := { enabledLanguages := some ["go"], variant := some .lenient }
    InKeyOrder members ∧ members.lookup settingsSection = none ∧
      ofClient (.object members) = .ok layer ∧
      ofClient (.object [("enabledLanguages", .array [.string "go"]), ("maxFileSize", .null),
        ("theme", .bool true), ("variant", .object [("lenient", .null)])]) = .ok layer ∧
      ofClient (.object [("symbolDefinition", .object members), ("window", .null)]) =
        .ok layer := by
  intro members layer
  have ordered : InKeyOrder members := by decide +kernel
  have flat : members.lookup settingsSection = none := by rfl
  have decoded : ofClient (.object members) = .ok layer := by rfl
  obtain ⟨-, -, -, -, renamed, nested, -⟩ := ofClient_exact ordered flat
  refine ⟨ordered, flat, decoded, ?_, ?_⟩
  · exact (renamed .enabledLanguages "enabled_languages" "enabledLanguages" (by decide) (by decide)
      rfl).trans decoded
  · exact (nested _ rfl).trans decoded

end Layer

end GotoDefinition
