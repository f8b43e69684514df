import GotoDefinition.Json.Basic
import Mathlib.Data.String.Basic

/-!
# The members of an object

The members of an object come in the order of their keys (`InKeyOrder`), so that an object is
known by what is found under each key.
-/

namespace GotoDefinition.Json

variable {members : List (String × Json)} {key : String} {value : Json}

/-! ## Looking up -/

theorem lookup_insertMember (key : String) (value : Json) (members : List (String × Json))
    (asked : String) :
    (insertMember key value members).lookup asked =
      if asked = key then some value else members.lookup asked := by
  by_cases same : asked = key
  · subst same
    rw [if_pos rfl]
    fun_induction insertMember asked value members with
    | case1 | case2 | case3 => simp
    | case4 otherKey otherValue rest notBefore differ ih =>
      rw [List.lookup_cons, beq_false_of_ne differ, ih]
  · rw [if_neg same]
    fun_induction insertMember key value members with
    | case1 | case2 | case3 => simp [List.lookup_cons, beq_false_of_ne same]
    | case4 otherKey otherValue rest notBefore differ ih =>
      rw [List.lookup_cons, List.lookup_cons, ih]

/-- Of several members with one key the last counts. -/
theorem get?_ofMembers (members : List (String × Json)) (key : String) :
    (ofMembers members).get? key = members.reverse.lookup key := by
  rw [ofMembers, get?, ← List.foldr_reverse]
  -- Members are put in from the first to the last; seen from the last, each one is looked
  -- up before those it may have replaced.
  induction members.reverse with
  | nil => rfl
  | cons member earlier ih =>
    rw [List.foldr_cons, lookup_insertMember, ih]
    obtain ⟨memberKey, memberValue⟩ := member
    by_cases same : key = memberKey
    · simp [same]
    · rw [if_neg same, List.lookup_cons, beq_false_of_ne same]

/-! ## Key order -/

/-- Members as an object has them: in increasing order of their keys, each key once. -/
def InKeyOrder (members : List (String × Json)) : Prop :=
  members.Pairwise fun member later => member.1 < later.1

instance (members : List (String × Json)) : Decidable (InKeyOrder members) :=
  inferInstanceAs (Decidable (members.Pairwise _))

theorem InKeyOrder.lookup_eq_some_iff (ordered : InKeyOrder members) :
    members.lookup key = some value ↔ (key, value) ∈ members := by
  induction members with
  | nil => simp
  | cons member rest ih =>
    obtain ⟨first, others⟩ := List.pairwise_cons.1 ordered
    obtain ⟨memberKey, memberValue⟩ := member
    by_cases asked : key = memberKey
    · subst asked
      have onlyFirst : (key, value) ∉ rest := fun later => lt_irrefl key (first _ later)
      simp [onlyFirst, eq_comm]
    · simp [List.lookup_cons, beq_false_of_ne asked, asked, ih others]

theorem mem_insertMember {member : String × Json}
    (isMember : member ∈ insertMember key value members) :
    member = (key, value) ∨ member ∈ members := by
  fun_induction insertMember key value members with
  | case1 => exact .inl (List.mem_singleton.1 isMember)
  | case2 => exact List.mem_cons.1 isMember
  | case3 => exact (List.mem_cons.1 isMember).imp id (List.mem_cons_of_mem _)
  | case4 otherKey otherValue rest notBefore differ ih =>
    rcases List.mem_cons.1 isMember with rfl | deeper
    · exact .inr List.mem_cons_self
    · exact (ih deeper).imp id (List.mem_cons_of_mem _)

theorem inKeyOrder_insertMember (ordered : InKeyOrder members) (key : String) (value : Json) :
    InKeyOrder (insertMember key value members) := by
  fun_induction insertMember key value members with
  | case1 => exact List.pairwise_singleton _ _
  | case2 otherKey otherValue rest before =>
    refine List.pairwise_cons.2 ⟨?_, ordered⟩
    intro member isMember
    rcases List.mem_cons.1 isMember with rfl | later
    · exact before
    · exact lt_trans before ((List.pairwise_cons.1 ordered).1 member later)
  | case3 rest => exact List.pairwise_cons.2 (List.pairwise_cons.1 ordered)
  | case4 otherKey otherValue rest notBefore differ ih =>
    obtain ⟨first, others⟩ := List.pairwise_cons.1 ordered
    refine List.pairwise_cons.2 ⟨?_, ih others⟩
    intro member isMember
    rcases mem_insertMember isMember with rfl | old
    · exact lt_of_le_of_ne (not_lt.1 notBefore) (Ne.symm differ)
    · exact first member old

/-! ## Renaming -/

/-- The members with what is found under the key `old`, if anything is, under the key `new`. -/
def renameMember (old new : String) (members : List (String × Json)) : List (String × Json) :=
  match members.lookup old with
  | none => members
  | some value => insertMember new value (members.filter (·.1 != old))

theorem inKeyOrder_renameMember (ordered : InKeyOrder members) (old new : String) :
    InKeyOrder (renameMember old new members) := by
  unfold renameMember
  split
  · exact ordered
  · exact inKeyOrder_insertMember (ordered.sublist List.filter_sublist) _ _

theorem InKeyOrder.lookup_filter_ne (ordered : InKeyOrder members) (erased key : String) :
    (members.filter (·.1 != erased)).lookup key =
      if key = erased then none else members.lookup key := by
  have kept : InKeyOrder (members.filter (·.1 != erased)) := ordered.sublist List.filter_sublist
  ext value
  rw [kept.lookup_eq_some_iff, List.mem_filter]
  by_cases same : key = erased
  · simp [same]
  · simp [same, ordered.lookup_eq_some_iff]

theorem InKeyOrder.lookup_renameMember (ordered : InKeyOrder members) {old new : String}
    (free : members.lookup new = none) (key : String) :
    (renameMember old new members).lookup key =
      if key = new then members.lookup old
      else if key = old then none else members.lookup key := by
  unfold renameMember
  cases found : members.lookup old with
  | none =>
    by_cases isNew : key = new
    · simp [isNew, free]
    · by_cases isOld : key = old
      · simp [isOld, found]
      · simp [isNew, isOld]
  | some value => rw [lookup_insertMember, ordered.lookup_filter_ne]

end GotoDefinition.Json
