import GotoDefinition.Uri.Basic

/-!
# Tables by URI

A table holds one value for each of some URIs, in the order of the URIs.  The order is
part of the table, so a URI has at most one row.  After the operations come the laws by
which `get?` sees each of them.
-/

namespace GotoDefinition

namespace Uri

theorem precedes_trans {u v w : Uri} (uv : u.precedes v) (vw : v.precedes w) : u.precedes w := by
  simp only [precedes, decide_eq_true_eq] at uv vw ⊢
  exact List.lt_trans uv vw

theorem ne_of_precedes {u v : Uri} (before : u.precedes v) : u ≠ v := by
  rintro rfl
  simp only [precedes, decide_eq_true_eq] at before
  exact List.lt_irrefl u.text before

/-- Of two different URIs one comes before the other. -/
theorem precedes_of_not_precedes {u v : Uri} (notBefore : ¬ u.precedes v) (differ : u ≠ v) :
    v.precedes u := by
  simp only [precedes, decide_eq_true_eq] at notBefore ⊢
  rcases Std.lt_trichotomy u.text v.text with before | same | after
  · exact absurd before notBefore
  · exact absurd (congrArg Uri.mk same) differ
  · exact after

end Uri

/-- Whether rows come in increasing order of their URIs. -/
def SortedRows {α : Type} (rows : List (Uri × α)) : Prop :=
  rows.Pairwise fun row later => row.1.precedes later.1

/-- Values by URI, in increasing order of the URIs. -/
structure UriTable (α : Type) where
  rows : List (Uri × α) := []
  sorted : SortedRows rows := by exact List.Pairwise.nil

namespace UriTable

variable {α : Type}

/-! ## Operations -/

/-- Put a row into its place, replacing one with its URI. -/
def insertRow (uri : Uri) (value : α) : List (Uri × α) → List (Uri × α)
  | [] => [(uri, value)]
  | (other, otherValue) :: rest =>
    if uri.precedes other then (uri, value) :: (other, otherValue) :: rest
    else if uri = other then (uri, value) :: rest
    else (other, otherValue) :: insertRow uri value rest

theorem mem_insertRow {uri : Uri} {value : α} {row : Uri × α} {rows : List (Uri × α)}
    (member : row ∈ insertRow uri value rows) : row = (uri, value) ∨ row ∈ rows := by
  fun_induction insertRow uri value rows with
  | case1 => exact .inl (List.mem_singleton.1 member)
  | case2 => exact List.mem_cons.1 member
  | case3 =>
    rcases List.mem_cons.1 member with new | old
    · exact .inl new
    · exact .inr (List.mem_cons_of_mem _ old)
  | case4 other otherValue rest notBefore differ ih =>
    rcases List.mem_cons.1 member with rfl | deeper
    · exact .inr List.mem_cons_self
    · exact (ih deeper).imp id (List.mem_cons_of_mem _)

theorem sorted_insertRow (uri : Uri) (value : α) {rows : List (Uri × α)}
    (sorted : SortedRows rows) : SortedRows (insertRow uri value rows) := by
  fun_induction insertRow uri value rows with
  | case1 => exact List.pairwise_singleton _ _
  | case2 other otherValue rest before =>
    refine List.pairwise_cons.2 ⟨?_, sorted⟩
    intro row member
    rcases List.mem_cons.1 member with rfl | later
    · exact before
    · exact Uri.precedes_trans before ((List.pairwise_cons.1 sorted).1 row later)
  | case3 rest => exact List.pairwise_cons.2 (List.pairwise_cons.1 sorted)
  | case4 other otherValue rest notBefore differ ih =>
    obtain ⟨first, others⟩ := List.pairwise_cons.1 sorted
    refine List.pairwise_cons.2 ⟨?_, ih others⟩
    intro row member
    rcases mem_insertRow member with rfl | old
    · exact Uri.precedes_of_not_precedes notBefore differ
    · exact first row old

/-- The table with a value for a URI. -/
def insert (table : UriTable α) (uri : Uri) (value : α) : UriTable α where
  rows := insertRow uri value table.rows
  sorted := sorted_insertRow uri value table.sorted

/-- The table without a URI. -/
def erase (table : UriTable α) (uri : Uri) : UriTable α where
  rows := table.rows.filter fun row => row.1 != uri
  sorted := table.sorted.sublist List.filter_sublist

/-- The value for a URI. -/
def get? (table : UriTable α) (uri : Uri) : Option α :=
  table.rows.lookup uri

/-- The values in the order of their URIs. -/
def values (table : UriTable α) : List α :=
  table.rows.map Prod.snd

/-! ## Looking up -/

theorem lookup_insertRow_self (uri : Uri) (value : α) (rows : List (Uri × α)) :
    (insertRow uri value rows).lookup uri = some value := by
  fun_induction insertRow uri value rows with
  | case1 | case2 | case3 => simp
  | case4 other otherValue rest notBefore differ ih =>
    rw [List.lookup_cons, beq_false_of_ne differ]
    exact ih

theorem lookup_insertRow_of_ne {uri other : Uri} (value : α) (rows : List (Uri × α))
    (differ : other ≠ uri) : (insertRow uri value rows).lookup other = rows.lookup other := by
  fun_induction insertRow uri value rows with
  | case1 | case2 | case3 => simp [List.lookup_cons, beq_false_of_ne differ]
  | case4 row rowValue rest notBefore notSame ih => simp only [List.lookup_cons, ih]

@[simp] theorem get?_empty (uri : Uri) : ({} : UriTable α).get? uri = none := rfl

@[simp] theorem get?_insert_self (table : UriTable α) (uri : Uri) (value : α) :
    (table.insert uri value).get? uri = some value :=
  lookup_insertRow_self uri value table.rows

@[simp] theorem get?_insert_of_ne (table : UriTable α) {uri other : Uri} (value : α)
    (differ : other ≠ uri) : (table.insert uri value).get? other = table.get? other :=
  lookup_insertRow_of_ne value table.rows differ

theorem get?_erase (table : UriTable α) (uri other : Uri) :
    (table.erase uri).get? other = if other = uri then none else table.get? other := by
  obtain ⟨rows, sorted⟩ := table
  simp only [get?, erase]
  clear sorted
  induction rows with
  | nil => simp
  | cons row rest ih =>
    obtain ⟨key, value⟩ := row
    by_cases erased : key = uri
    · subst erased
      rw [List.filter_cons_of_neg (by simp), ih]
      by_cases asked : other = key
      · simp [asked]
      · simp [List.lookup_cons, asked, beq_false_of_ne asked]
    · rw [List.filter_cons_of_pos (by simpa using erased), List.lookup_cons, List.lookup_cons, ih]
      by_cases asked : other = key
      · subst asked
        simp [erased]
      · simp [beq_false_of_ne asked]

@[simp] theorem get?_erase_self (table : UriTable α) (uri : Uri) :
    (table.erase uri).get? uri = none := by
  simp [get?_erase]

@[simp] theorem get?_erase_of_ne (table : UriTable α) {uri other : Uri} (differ : other ≠ uri) :
    (table.erase uri).get? other = table.get? other := by
  simp [get?_erase, differ]

/-- Looking a URI up finds its row, and the order leaves room for one row only. -/
theorem get?_eq_some_iff (table : UriTable α) (uri : Uri) (value : α) :
    table.get? uri = some value ↔ (uri, value) ∈ table.rows := by
  obtain ⟨rows, sorted⟩ := table
  simp only [get?]
  induction rows with
  | nil => simp
  | cons row rest ih =>
    obtain ⟨key, keyValue⟩ := row
    obtain ⟨first, others⟩ := List.pairwise_cons.1 sorted
    by_cases asked : uri = key
    · subst asked
      have onlyFirst : (uri, value) ∉ rest := fun later => Uri.ne_of_precedes (first _ later) rfl
      simp [onlyFirst, eq_comm]
    · simp [List.lookup_cons, beq_false_of_ne asked, asked, ih others]

theorem mem_values_iff (table : UriTable α) (value : α) :
    value ∈ table.values ↔ ∃ uri, table.get? uri = some value := by
  simp [values, get?_eq_some_iff]

end UriTable

end GotoDefinition
