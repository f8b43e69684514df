import GotoDefinition.Declaration
import GotoDefinition.Proofs.Text.Line
import Mathlib.Data.Option.Basic

/-!
# Where declarations stand

A declaration that the scanner reports is a division of the document: the text before it,
its lead, its name, and the rest (`Declaration.Stands`).  Names lie on one line and are
not empty, so that the range of a symbol is where the text before the name and the text up
to its end come to an end.
-/

namespace GotoDefinition

/-! ## Names -/

/-- A class of characters that has neither a line feed nor a carriage return has no
terminator. -/
theorem not_isTerminator_of_class {isMember : Char → Bool} (noFeed : isMember '\n' = false)
    (noReturn : isMember '\r' = false) {c : Char} (member : isMember c = true) :
    Text.isTerminator c = false := by
  rw [Text.isTerminator_eq_false_iff]
  constructor
  · rintro rfl
    rw [noFeed] at member
    cases member
  · rintro rfl
    rw [noReturn] at member
    cases member

namespace DeclarationHead

/-- A name is read from the front of a text and ends on the line it starts on. -/
theorem name?_spec {text name : Text} (found : name? text = some name) :
    name ≠ [] ∧ Text.OnOneLine name ∧ name <+: text := by
  cases text with
  | nil => cases found
  | cons c rest =>
    rw [name?] at found
    split at found
    next isStart =>
      obtain rfl : c :: rest.takeWhile isNamePart = name := by simpa using found
      refine ⟨List.cons_ne_nil _ _, ?_, ?_⟩
      · refine List.forall_mem_cons.2 ⟨not_isTerminator_of_class rfl rfl isStart, ?_⟩
        intro d member
        exact not_isTerminator_of_class rfl rfl (List.all_eq_true.1 List.all_takeWhile d member)
      · exact (List.prefix_cons_inj c).2 (List.takeWhile_prefix isNamePart)
    next notStart => cases found

/-! ## Leads -/

theorem prefix_of_receiver? {text receiver : Text} (found : receiver? text = some receiver) :
    receiver <+: text := by
  unfold receiver? at found
  split at found
  next rest =>
    simp only at found
    split at found
    next after closed =>
      obtain rfl := Option.some.inj found
      have parts := List.prefix_iff_eq_append.1
        (List.takeWhile_prefix (l := rest) fun c => c != ')' && c != '\n')
      rw [closed] at parts
      refine ⟨after.dropWhile isGap, ?_⟩
      rw [List.cons_append, List.cons_append, List.append_assoc, List.cons_append,
        List.takeWhile_append_dropWhile, parts]
    next unclosed => cases found
  next noReceiver => cases found

/-- The declaration of a keyword at the front of a text, piece by piece: the keyword, a gap
as long as it can be, a receiver if there is one, and the name. -/
theorem withKeyword?_inv {text : Text} {keyword : Keyword} {head : DeclarationHead}
    (found : withKeyword? text keyword = some head) :
    ∃ gap afterGap, text = keyword.spelling ++ (gap ++ afterGap) ∧ gap ≠ [] ∧
      gap = (gap ++ afterGap).takeWhile isGap ∧ head.keyword = keyword ∧
      head.lead = keyword.spelling ++ gap ++ (receiver? afterGap).getD [] ∧
      name? (afterGap.drop ((receiver? afterGap).getD []).length) = some head.name := by
  simp only [withKeyword?, Option.bind_eq_bind, Option.bind_eq_some_iff] at found
  obtain ⟨_, isKeyword, _, hasGap, name, isName, head_eq⟩ := found
  obtain ⟨rest, rfl⟩ : keyword.spelling <+: text := by
    rw [← List.isPrefixOf_iff_prefix]
    exact (Option.guard_eq_some' _).1 isKeyword
  have gapAtFront := List.prefix_iff_eq_append.1 (List.takeWhile_prefix (l := rest) isGap)
  rw [← List.drop_drop, List.drop_left] at isName head_eq
  rw [List.drop_left] at hasGap
  obtain rfl := Option.some.inj head_eq
  refine ⟨rest.takeWhile isGap, rest.drop (rest.takeWhile isGap).length, ?_, ?_, ?_, ?_, ?_, ?_⟩
  · rw [gapAtFront]
  · simpa using (Option.guard_eq_some' _).1 hasGap
  · rw [gapAtFront]
  · rfl
  · rfl
  · exact isName

/-- A declaration at the front of a text takes its lead and its name off it. -/
theorem at?_spec {previous : Option Char} {text : Text} {head : DeclarationHead}
    (found : at? previous text = some head) :
    head.lead ≠ [] ∧ head.name ≠ [] ∧ Text.OnOneLine head.name ∧
      ∃ rest, text = head.lead ++ (head.name ++ rest) := by
  unfold at? at found
  split at found
  next isInWord => cases found
  next =>
    obtain ⟨keyword, -, withKeyword⟩ := List.exists_of_findSome?_eq_some found
    obtain ⟨gap, afterGap, rfl, hasGap, -, -, lead_eq, isName⟩ := withKeyword?_inv withKeyword
    obtain ⟨nonempty, unbroken, rest, rest_eq⟩ := name?_spec isName
    have receiverAtFront : (receiver? afterGap).getD [] <+: afterGap := by
      cases isReceiver : receiver? afterGap with
      | none => exact List.nil_prefix
      | some receiver => exact prefix_of_receiver? isReceiver
    refine ⟨?_, nonempty, unbroken, rest, ?_⟩
    · rw [lead_eq]
      simp [hasGap]
    · rw [rest_eq, lead_eq, List.append_assoc, List.append_assoc,
        List.prefix_iff_eq_append.1 receiverAtFront]

theorem drop_length {head : DeclarationHead} {c : Char} {rest after : Text}
    (text_eq : c :: rest = head.lead ++ (head.name ++ after)) (leadNonempty : head.lead ≠ []) :
    rest.drop (head.length - 1) = after := by
  have positive : 0 < head.lead.length := List.length_pos_iff.2 leadNonempty
  have dropped : (c :: rest).drop head.length = after := by
    rw [text_eq, ← List.append_assoc]
    exact List.drop_left' (by simp [length])
  obtain ⟨count, count_eq⟩ : ∃ count, head.length = count + 1 :=
    ⟨head.length - 1, by unfold length; omega⟩
  rw [count_eq] at dropped ⊢
  exact dropped

theorem getLast?_name {head : DeclarationHead} (before : Text) (nameNonempty : head.name ≠ []) :
    head.name.getLast? = (before ++ (head.lead ++ head.name)).getLast? := by
  rw [List.getLast?_append, List.getLast?_append, List.getLast?_eq_some_getLast nameNonempty]
  rfl

/-- The declaration that a head makes behind the text `before`. -/
def declarationAfter (before : Text) (head : DeclarationHead) : Declaration where
  keyword := head.keyword
  start := before.utf8Length
  name :=
    { start := (before ++ head.lead).utf8Length
      stop := (before ++ head.lead ++ head.name).utf8Length }

/-- The symbol that a head makes behind the text `before`. -/
def symbolAfter (uri : Uri) (before : Text) (head : DeclarationHead) : Symbol where
  name := head.name
  kind := head.keyword.kind
  uri := uri
  range :=
    { start := (before ++ head.lead).endPosition
      stop := (before ++ head.lead ++ head.name).endPosition }

end DeclarationHead

/-! ## Places of declarations -/

namespace Declaration

/-- In a document a declaration stands behind `before` and ahead of `after`, with the
pieces of `head` in between. -/
structure Stands (content : Text) (declaration : Declaration) (before : Text)
    (head : DeclarationHead) (after : Text) : Prop where
  content_eq : content = before ++ (head.lead ++ (head.name ++ after))
  found : DeclarationHead.at? before.getLast? (head.lead ++ (head.name ++ after)) = some head
  declaration_eq : declaration = head.declarationAfter before

/-- The scanner reports declarations where they stand.  It carries along the last character
and the length of the text `before` that it has read. -/
theorem stands_of_mem_scanFrom {previous : Option Char} {offset : Nat} {text : Text}
    (before : Text) (previous_eq : previous = before.getLast?)
    (offset_eq : offset = before.utf8Length)
    {declaration : Declaration} (member : declaration ∈ scanFrom previous offset text) :
    ∃ skipped head after, Stands (before ++ text) declaration (before ++ skipped) head after := by
  fun_induction scanFrom previous offset text generalizing before with
  | case1 => exact absurd member List.not_mem_nil
  | case2 previous offset c rest head found nameStart nameStop =>
    rename_i ih
    obtain ⟨leadNonempty, nameNonempty, -, after, text_eq⟩ := DeclarationHead.at?_spec found
    rw [DeclarationHead.drop_length text_eq leadNonempty] at ih member
    rw [text_eq]
    rcases List.mem_cons.1 member with rfl | later
    · refine ⟨[], head, after, ?_, ?_, ?_⟩
      · rw [List.append_nil]
      · rw [List.append_nil, ← previous_eq, ← text_eq, found]
      · simp [DeclarationHead.declarationAfter, nameStop, nameStart, offset_eq, Nat.add_assoc]
    -- The scan goes on behind the name, with everything up to there as the text it has read.
    · have lastCharacter := DeclarationHead.getLast?_name before nameNonempty
      have nextOffset : nameStop = (before ++ (head.lead ++ head.name)).utf8Length := by
        simp [nameStop, nameStart, offset_eq, Nat.add_assoc]
      obtain ⟨skipped, next, nextAfter, stands⟩ :=
        ih (before ++ (head.lead ++ head.name)) lastCharacter nextOffset later
      refine ⟨head.lead ++ (head.name ++ skipped), next, nextAfter, ?_⟩
      simpa using stands
  | case3 previous offset c rest notFound ih =>
    obtain ⟨skipped, head, after, stands⟩ := ih (before ++ [c]) (by simp)
      (by simp [offset_eq]) member
    refine ⟨c :: skipped, head, after, ?_⟩
    simpa using stands

/-! ## The order of declarations -/

theorem bounds_of_mem_scanFrom {previous : Option Char} {offset : Nat} {text : Text}
    {declaration : Declaration} (member : declaration ∈ scanFrom previous offset text) :
    offset ≤ declaration.start ∧ declaration.start < declaration.name.start ∧
      declaration.name.start < declaration.name.stop := by
  fun_induction scanFrom previous offset text with
  | case1 => exact absurd member List.not_mem_nil
  | case2 previous offset c rest head found nameStart nameStop =>
    rename_i ih
    obtain ⟨leadNonempty, nameNonempty, -⟩ := DeclarationHead.at?_spec found
    have leadPositive := Text.utf8Length_pos leadNonempty
    have namePositive := Text.utf8Length_pos nameNonempty
    rcases List.mem_cons.1 member with rfl | later
    · simp only [nameStop, nameStart]
      omega
    · obtain ⟨start, others⟩ := ih later
      refine ⟨?_, others⟩
      simp only [nameStop, nameStart] at start
      omega
  | case3 previous offset c rest notFound ih =>
    obtain ⟨start, others⟩ := ih member
    exact ⟨by omega, others⟩

theorem pairwise_scanFrom (previous : Option Char) (offset : Nat) (text : Text) :
    (scanFrom previous offset text).Pairwise fun declaration later =>
      declaration.name.stop < later.name.start := by
  fun_induction scanFrom previous offset text with
  | case1 => exact List.Pairwise.nil
  | case2 previous offset c rest head found nameStart nameStop =>
    rename_i ih
    refine List.pairwise_cons.2 ⟨?_, ih⟩
    intro later member
    -- Whatever is found later is found from the end of this name on, and has a lead.
    obtain ⟨start, nameBehind, -⟩ := bounds_of_mem_scanFrom member
    exact Nat.lt_of_le_of_lt start nameBehind
  | case3 previous offset c rest notFound ih => exact ih

/-! ## Symbols -/

theorem stands_of_mem_declarations {content : Text} {declaration : Declaration}
    (member : declaration ∈ content.declarations) :
    ∃ before head after, Stands content declaration before head after := by
  obtain ⟨before, head, after, stands⟩ := stands_of_mem_scanFrom [] rfl rfl member
  exact ⟨before, head, after, stands⟩

namespace Stands

variable {content before after : Text} {declaration : Declaration} {head : DeclarationHead}

theorem spec (stands : Stands content declaration before head after) :
    head.lead ≠ [] ∧ head.name ≠ [] ∧ Text.OnOneLine head.name := by
  obtain ⟨leadNonempty, nameNonempty, unbroken, -⟩ := DeclarationHead.at?_spec stands.found
  exact ⟨leadNonempty, nameNonempty, unbroken⟩

/-- The document divided at the name. -/
theorem content_eq_name (stands : Stands content declaration before head after) :
    content = (before ++ head.lead) ++ (head.name ++ after) := by
  rw [stands.content_eq, List.append_assoc]

/-- No declaration is lost: each becomes the symbol that its place gives it. -/
theorem symbol?_eq (stands : Stands content declaration before head after) (uri : Uri) :
    symbol? uri content content.lineStarts declaration = some (head.symbolAfter uri before) := by
  obtain ⟨-, nameNonempty, unbroken⟩ := stands.spec
  obtain ⟨wholeStart, wholeStop⟩ := Text.not_splitsBreak_of_onOneLine (before ++ head.lead) after
    unbroken nameNonempty
  have name := Text.slice?_append (before ++ head.lead) head.name after
  have start := Text.positionAt?_endPosition wholeStart
  have stop := Text.positionAt?_endPosition wholeStop
  rw [← stands.content_eq_name] at name start
  rw [List.append_assoc, ← stands.content_eq_name] at stop
  rw [← Text.utf8Length_append] at name
  rw [symbol?, stands.declaration_eq, DeclarationHead.declarationAfter]
  simp only [name, start, stop]
  rfl

end Stands

end Declaration

end GotoDefinition
