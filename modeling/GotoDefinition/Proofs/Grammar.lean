import GotoDefinition.Proofs.Symbols
import Mathlib.Control.Basic
import Mathlib.Data.List.Forall2

/-!
# The grammar of declarations

What counts as a declaration is said here as a grammar, without any reading from left to
right: how the pieces of a head are written (`DeclarationHead.Written`) and where in a
document a head may stand (`Declaration.Written`).  The reader at one place decides this
grammar (`at?_eq_some_iff`), so at one place there is at most one declaration, and the
scanner reports every declaration that does not start inside an earlier one.
-/

namespace GotoDefinition

/-! ## Grammar -/

/-- Nothing, or a receiver in parentheses on one line with a gap behind it. -/
inductive OptionalReceiver : Text → Prop where
  | absent : OptionalReceiver []
  | present {inside gap : Text} (closedOnce : ∀ c ∈ inside, c ≠ ')' ∧ c ≠ '\n')
      (blank : ∀ c ∈ gap, isGap c = true) : OptionalReceiver ('(' :: (inside ++ ')' :: gap))

/-- A name that what follows does not make longer. -/
structure WholeName (name after : Text) : Prop where
  spelled : ∃ c rest, name = c :: rest ∧ isNameStart c = true ∧ ∀ d ∈ rest, isNamePart d = true
  ended : ∀ c ∈ after.head?, isNamePart c = false

/-- How a declaration ahead of `after` is written: a keyword, a gap, perhaps a receiver, and
a name. -/
structure DeclarationHead.Written (head : DeclarationHead) (after : Text) : Prop where
  lead : ∃ gap receiver, head.lead = head.keyword.spelling ++ (gap ++ receiver) ∧ gap ≠ [] ∧
    (∀ c ∈ gap, isGap c = true) ∧ OptionalReceiver receiver
  name : WholeName head.name after

/-- A declaration of a document behind `before` and ahead of `after`: the keyword continues no
word, and the pieces are written as the grammar wants them. -/
structure Declaration.Written (content : Text) (declaration : Declaration) (before : Text)
    (head : DeclarationHead) (after : Text) : Prop where
  content_eq : content = before ++ (head.lead ++ (head.name ++ after))
  apart : ∀ c ∈ before.getLast?, isWordCharacter c = false
  written : head.Written after
  declaration_eq : declaration = head.declarationAfter before

/-! ## Pieces -/

theorem ne_of_class {isMember : Char → Bool} {c other : Char} (member : isMember c = true)
    (excluded : isMember other = false) : c ≠ other := by
  rintro rfl
  rw [excluded] at member
  cases member

theorem isGap_of_isNameStart {c : Char} (isStart : isNameStart c = true) : isGap c = false := by
  have noSpace : c ≠ ' ' := ne_of_class isStart rfl
  have noTab : c ≠ '\t' := ne_of_class isStart rfl
  simp [isGap, noSpace, noTab]

namespace Keyword

theorem isGap_of_mem_spelling {keyword : Keyword} {c : Char} (member : c ∈ keyword.spelling) :
    isGap c = false := by
  have noGap : keyword.spelling.all (fun c => !isGap c) = true := by
    cases keyword <;> decide
  simpa using List.all_eq_true.1 noGap c member

theorem spelling_injective {keyword other : Keyword} (same : keyword.spelling = other.spelling) :
    keyword = other := by
  revert same
  cases keyword <;> cases other <;> decide

theorem mem_all (keyword : Keyword) : keyword ∈ all := by
  cases keyword <;> decide

end Keyword

namespace DeclarationHead

theorem name?_eq_some_iff (text name : Text) :
    name? text = some name ↔ ∃ after, text = name ++ after ∧ WholeName name after := by
  constructor
  · intro found
    cases text with
    | nil => cases found
    | cons c rest =>
      rw [name?] at found
      split at found
      next isStart =>
        obtain rfl : c :: rest.takeWhile isNamePart = name := by simpa using found
        refine ⟨rest.dropWhile isNamePart, ?_, ⟨c, _, rfl, isStart, ?_⟩, ?_⟩
        · rw [List.cons_append, List.takeWhile_append_dropWhile]
        · exact List.all_eq_true.1 List.all_takeWhile
        · exact fun d first => head?_dropWhile_of_mem first
      next => cases found
  · rintro ⟨after, rfl, ⟨c, rest, rfl, isStart, parts⟩, ended⟩
    rw [List.cons_append, name?, if_pos isStart, takeWhile_append_of_head? parts ended]

theorem optionalReceiver_of_receiver? {text receiver : Text}
    (found : receiver? text = some receiver) : OptionalReceiver receiver := by
  unfold receiver? at found
  split at found
  next rest =>
    simp only at found
    split at found
    next after closed =>
      obtain rfl := Option.some.inj found
      refine .present ?_ (List.all_eq_true.1 List.all_takeWhile)
      intro c member
      simpa using List.all_eq_true.1 List.all_takeWhile c member
    next => cases found
  next => cases found

/-- A receiver is found as it is written, if what follows does not begin with a gap. -/
theorem receiver?_of_optionalReceiver {receiver after : Text} {c : Char}
    (written : OptionalReceiver receiver) (follows : after.head? = some c)
    (isStart : isNameStart c = true) : (receiver? (receiver ++ after)).getD [] = receiver := by
  obtain ⟨rest, rfl⟩ := List.head?_eq_some_iff.1 follows
  cases written with
  | absent =>
    -- No name begins with a parenthesis, so a receiver that is absent is never taken for one.
    have noReceiver : c ≠ '(' := ne_of_class isStart rfl
    rw [List.nil_append, receiver?.eq_2 _ (by rintro other ⟨rfl, -⟩; exact noReceiver rfl)]
    rfl
  | present closedOnce blank =>
    rename_i inside gap
    have insideTaken : (inside ++ ')' :: (gap ++ c :: rest)).takeWhile
        (fun c => c != ')' && c != '\n') = inside :=
      takeWhile_append_of_head? (fun d member => by simpa using closedOnce d member)
        (fun d first => by obtain rfl := Option.some.inj first; rfl)
    have gapTaken : (gap ++ c :: rest).takeWhile isGap = gap :=
      takeWhile_append_of_head? blank
        (fun d first => by obtain rfl := Option.some.inj first; exact isGap_of_isNameStart isStart)
    rw [List.cons_append, List.append_assoc, List.cons_append, receiver?]
    simp only [insideTaken, List.drop_left, gapTaken, List.cons_append, Option.getD_some]

end DeclarationHead

/-! ## One declaration -/

theorem WholeName.head?_append {name after : Text} (whole : WholeName name after) :
    ∃ c, (name ++ after).head? = some c ∧ isNameStart c = true := by
  obtain ⟨c, rest, rfl, isStart, -⟩ := whole.spelled
  exact ⟨c, rfl, isStart⟩

theorem isGap_of_head?_append {receiver name after : Text} (written : OptionalReceiver receiver)
    (whole : WholeName name after) {c : Char} (first : c ∈ (receiver ++ (name ++ after)).head?) :
    isGap c = false := by
  cases written with
  | absent =>
    obtain ⟨d, follows, isStart⟩ := whole.head?_append
    rw [List.nil_append, follows] at first
    obtain rfl := Option.some.inj first
    exact isGap_of_isNameStart isStart
  | present closedOnce blank =>
    obtain rfl := Option.some.inj first
    rfl

namespace DeclarationHead

theorem withKeyword?_sound {text : Text} {keyword : Keyword} {head : DeclarationHead}
    (found : withKeyword? text keyword = some head) :
    head.keyword = keyword ∧
      ∃ after, text = head.lead ++ (head.name ++ after) ∧ head.Written after := by
  obtain ⟨gap, afterGap, rfl, hasGap, longest, rfl, lead_eq, isName⟩ := withKeyword?_inv found
  obtain ⟨after, afterReceiver, whole⟩ := (name?_eq_some_iff _ _).1 isName
  have blank : ∀ c ∈ gap, isGap c = true := by
    rw [longest]
    exact List.all_eq_true.1 List.all_takeWhile
  have receiverWritten : OptionalReceiver ((receiver? afterGap).getD []) ∧
      (receiver? afterGap).getD [] <+: afterGap := by
    cases isReceiver : receiver? afterGap with
    | none => exact ⟨.absent, List.nil_prefix⟩
    | some receiver =>
      exact ⟨optionalReceiver_of_receiver? isReceiver, prefix_of_receiver? isReceiver⟩
  refine ⟨rfl, after, ?_, ⟨gap, _, ?_, hasGap, blank, receiverWritten.1⟩, whole⟩
  · rw [← afterReceiver, lead_eq, List.append_assoc, List.append_assoc,
      List.prefix_iff_eq_append.1 receiverWritten.2]
  · rw [lead_eq, List.append_assoc]

theorem withKeyword?_complete {head : DeclarationHead} {after : Text}
    (written : head.Written after) :
    withKeyword? (head.lead ++ (head.name ++ after)) head.keyword = some head := by
  obtain ⟨⟨gap, receiver, lead_eq, hasGap, blank, isReceiver⟩, whole⟩ := written
  obtain ⟨c, follows, isStart⟩ := whole.head?_append
  have gapTaken : (gap ++ (receiver ++ (head.name ++ after))).takeWhile isGap = gap :=
    takeWhile_append_of_head? blank fun d first => isGap_of_head?_append isReceiver whole first
  have receiverFound := receiver?_of_optionalReceiver isReceiver follows isStart
  have nameFound := (name?_eq_some_iff (head.name ++ after) head.name).2 ⟨after, rfl, whole⟩
  have atKeyword : head.keyword.spelling.isPrefixOf
      (head.keyword.spelling ++ (gap ++ (receiver ++ (head.name ++ after)))) = true :=
    List.isPrefixOf_iff_prefix.2 (List.prefix_append _ _)
  rw [lead_eq, List.append_assoc, List.append_assoc]
  simp only [withKeyword?, atKeyword, ← List.drop_drop, List.drop_left, gapTaken, receiverFound,
    nameFound]
  simp [hasGap, ← lead_eq]

/-- The keyword of a declaration is what comes before its first gap. -/
theorem takeWhile_of_written {head : DeclarationHead} {after : Text}
    (written : head.Written after) :
    (head.lead ++ (head.name ++ after)).takeWhile (fun c => !isGap c) = head.keyword.spelling := by
  obtain ⟨⟨gap, receiver, lead_eq, hasGap, blank, -⟩, -⟩ := written
  obtain ⟨c, rest, rfl⟩ := List.exists_cons_of_ne_nil hasGap
  rw [lead_eq, List.append_assoc]
  refine takeWhile_append_of_head? ?_ ?_
  · intro d member
    simp [Keyword.isGap_of_mem_spelling member]
  · intro d first
    obtain rfl := Option.some.inj first
    simp [blank c List.mem_cons_self]

/-- The reader finds a declaration at the front of a text exactly if one is written there. -/
theorem at?_eq_some_iff (previous : Option Char) (text : Text) (head : DeclarationHead) :
    at? previous text = some head ↔
      (∀ c ∈ previous, isWordCharacter c = false) ∧
        ∃ after, text = head.lead ++ (head.name ++ after) ∧ head.Written after := by
  have notInWord : previous.any isWordCharacter = false ↔
      ∀ c ∈ previous, isWordCharacter c = false := by
    cases previous <;> simp
  constructor
  · intro found
    unfold at? at found
    split at found
    next => cases found
    next inWord =>
      obtain ⟨keyword, -, withKeyword⟩ := List.exists_of_findSome?_eq_some found
      exact ⟨notInWord.1 (by simpa using inWord), (withKeyword?_sound withKeyword).2⟩
  · rintro ⟨apart, after, rfl, written⟩
    rw [at?, notInWord.2 apart, if_neg (by simp)]
    have complete := withKeyword?_complete written
    cases found : Keyword.all.findSome? (withKeyword? (head.lead ++ (head.name ++ after))) with
    | none =>
      rw [List.findSome?_eq_none_iff.1 found _ head.keyword.mem_all] at complete
      cases complete
    | some other =>
      -- Keywords are told apart by the gap behind them, so no other keyword comes first.
      obtain ⟨keyword, -, withKeyword⟩ := List.exists_of_findSome?_eq_some found
      obtain ⟨rfl, otherAfter, text_eq, otherWritten⟩ := withKeyword?_sound withKeyword
      have sameKeyword : head.keyword = other.keyword := by
        refine Keyword.spelling_injective ?_
        rw [← takeWhile_of_written written, text_eq, takeWhile_of_written otherWritten]
      rw [sameKeyword, withKeyword] at complete
      exact complete

end DeclarationHead

/-! ## All declarations -/

namespace Declaration

variable {content before after : Text} {declaration : Declaration} {head : DeclarationHead}

theorem stands_iff_written :
    Stands content declaration before head after ↔
      Written content declaration before head after := by
  constructor
  · rintro ⟨content_eq, found, declaration_eq⟩
    obtain ⟨apart, rest, text_eq, written⟩ := (DeclarationHead.at?_eq_some_iff _ _ _).1 found
    obtain rfl : after = rest := List.append_cancel_left (List.append_cancel_left text_eq)
    exact ⟨content_eq, apart, written, declaration_eq⟩
  · rintro ⟨content_eq, apart, written, declaration_eq⟩
    exact ⟨content_eq, (DeclarationHead.at?_eq_some_iff _ _ _).2 ⟨apart, after, rfl, written⟩,
      declaration_eq⟩

/-- The scanner misses no declaration behind the text `before` that it has read, unless the
declaration starts inside one that it reports. -/
theorem mem_scanFrom_or_inside {previous : Option Char} {offset : Nat} {text : Text}
    (before skipped : Text) (previous_eq : previous = before.getLast?)
    (offset_eq : offset = before.utf8Length)
    (stands : Stands (before ++ text) declaration (before ++ skipped) head after) :
    declaration ∈ scanFrom previous offset text ∨
      ∃ earlier ∈ scanFrom previous offset text,
        earlier.start < declaration.start ∧ declaration.start < earlier.name.stop := by
  have text_eq : text = skipped ++ (head.lead ++ (head.name ++ after)) := by
    have whole := stands.content_eq
    rw [List.append_assoc] at whole
    exact List.append_cancel_left whole
  obtain ⟨leadNonempty, -⟩ := stands.spec
  -- The scanner has read `before` and has `skipped` to pass until it comes to the declaration.
  fun_induction scanFrom previous offset text generalizing before skipped with
  | case1 =>
    rw [eq_comm, List.append_eq_nil_iff, List.append_eq_nil_iff] at text_eq
    exact absurd text_eq.2.1 leadNonempty
  | case2 previous offset c rest first found nameStart nameStop =>
    rename_i ih
    obtain ⟨firstLead, firstName, -, firstAfter, first_eq⟩ := DeclarationHead.at?_spec found
    rw [DeclarationHead.drop_length first_eq firstLead] at ih ⊢
    have nextOffset : nameStop = (before ++ (first.lead ++ first.name)).utf8Length := by
      simp [nameStop, nameStart, offset_eq, Nat.add_assoc]
    have start_eq : declaration.start = (before ++ skipped).utf8Length := by
      rw [stands.declaration_eq]
      rfl
    by_cases here : skipped = []
    · subst here
      have standsHere := stands.found
      rw [List.append_nil, ← previous_eq, ← List.nil_append (head.lead ++ _), ← text_eq, found]
        at standsHere
      obtain rfl := Option.some.inj standsHere
      refine .inl (List.mem_cons.2 (.inl ?_))
      rw [stands.declaration_eq]
      simp [DeclarationHead.declarationAfter, nameStop, nameStart, offset_eq, Nat.add_assoc]
    -- The scanner goes on behind the name, which the declaration may start ahead of or behind.
    · by_cases inFirst : declaration.start < nameStop
      · have skippedPositive := Text.utf8Length_pos here
        refine .inr ⟨_, List.mem_cons_self, ?_, inFirst⟩
        change offset < declaration.start
        rw [start_eq, offset_eq, Text.utf8Length_append]
        omega
      · obtain ⟨between, rfl, rest_eq⟩ : ∃ between, skipped = first.lead ++ first.name ++ between ∧
            firstAfter = between ++ (head.lead ++ (head.name ++ after)) := by
          have split_eq : skipped ++ (head.lead ++ (head.name ++ after)) =
              first.lead ++ first.name ++ firstAfter := by
            rw [← text_eq, first_eq, List.append_assoc]
          rcases List.append_eq_append_iff.1 split_eq with ⟨inside, first_inside, rest_eq⟩ | behind
          -- A piece of the first declaration that is left over would end behind the name.
          · cases inside with
            | nil => exact ⟨[], by simp [first_inside], by simp [rest_eq]⟩
            | cons d inside =>
              have positive := d.utf8Size_pos
              rw [nextOffset, first_inside, start_eq] at inFirst
              simp only [Text.utf8Length_append, Text.utf8Length_cons] at inFirst
              omega
          · exact behind
        have later := ih (before ++ (first.lead ++ first.name)) between
          (DeclarationHead.getLast?_name before firstName) nextOffset
          (by rw [first_eq] at stands; simpa using stands) rest_eq
        rcases later with reported | ⟨earlier, reported, apart⟩
        · exact .inl (List.mem_cons_of_mem _ reported)
        · exact .inr ⟨earlier, List.mem_cons_of_mem _ reported, apart⟩
  | case3 previous offset c rest notFound ih =>
    cases skipped with
    | nil =>
      have standsHere := stands.found
      rw [List.append_nil, ← previous_eq, ← List.nil_append (head.lead ++ _), ← text_eq, notFound]
        at standsHere
      cases standsHere
    | cons first skipped =>
      obtain ⟨rfl, rest_eq⟩ := List.cons.inj text_eq
      refine ih (before ++ [c]) skipped (by simp) (by simp [offset_eq]) ?_ rest_eq
      simpa using stands

theorem pairwise_start_scanFrom (previous : Option Char) (offset : Nat) (text : Text) :
    (scanFrom previous offset text).Pairwise fun declaration later =>
      declaration.name.stop ≤ later.start := by
  fun_induction scanFrom previous offset text with
  | case1 => exact List.Pairwise.nil
  | case2 previous offset c rest head found nameStart nameStop =>
    rename_i ih
    refine List.pairwise_cons.2 ⟨?_, ih⟩
    intro later member
    exact (bounds_of_mem_scanFrom member).1
  | case3 previous offset c rest notFound ih => exact ih

end Declaration

/-! ## Symbols -/

theorem forall₂_filterMap {α β : Type} {relation : α → β → Prop} {image? : α → Option β}
    {items : List α}
    (related : ∀ item ∈ items, ∃ image, image? item = some image ∧ relation item image) :
    List.Forall₂ relation items (items.filterMap image?) := by
  induction items with
  | nil => exact .nil
  | cons item items ih =>
    obtain ⟨image, isImage, first⟩ := related item List.mem_cons_self
    rw [List.filterMap_cons_some isImage]
    exact .cons first (ih fun other member => related other (List.mem_cons_of_mem _ member))

namespace Text

theorem isNamePart_of_isNameStart {c : Char} (isStart : isNameStart c = true) :
    isNamePart c = true := by
  have bounded : c.toNat < 128 := by
    simp only [isNameStart, Bool.or_eq_true, Bool.and_eq_true, decide_eq_true_eq, beq_iff_eq]
      at isStart
    rcases isStart with ((⟨-, small⟩ | ⟨-, small⟩) | rfl) | rfl
    · exact Nat.lt_of_le_of_lt small (by decide)
    · exact Nat.lt_of_le_of_lt small (by decide)
    · decide
    · decide
  have ascii : ∀ code : Fin 128, isNameStart (Char.ofNat code) = true →
      isNamePart (Char.ofNat code) = true := by
    decide +kernel
  have spelled := ascii ⟨c.toNat, bounded⟩
  rw [Char.ofNat_toNat] at spelled
  exact spelled isStart

/-- Names of symbols are made of name characters. -/
theorem isNamePart_of_mem_symbols {content : Text} {uri : Uri} {symbol : Symbol}
    (member : symbol ∈ content.symbols uri) : ∀ c ∈ symbol.name, isNamePart c = true := by
  obtain ⟨declaration, before, head, after, stands, rfl⟩ := stands_of_mem_symbols member
  obtain ⟨c, rest, name_eq, isStart, parts⟩ :=
    (Declaration.stands_iff_written.1 stands).written.name.spelled
  simp only [DeclarationHead.symbolAfter, name_eq]
  exact List.forall_mem_cons.2 ⟨isNamePart_of_isNameStart isStart, parts⟩

/-- A document that is one declaration has one symbol. -/
theorem symbols_of_written {head : DeclarationHead} (written : head.Written []) (uri : Uri) :
    symbols (head.lead ++ head.name) uri = [head.symbolAfter uri []] := by
  have content_eq : head.lead ++ head.name = [] ++ (head.lead ++ (head.name ++ [])) := by simp
  have stands : Declaration.Stands (head.lead ++ head.name) (head.declarationAfter []) [] head [] :=
    Declaration.stands_iff_written.2 ⟨content_eq, by simp, written, rfl⟩
  have declared : declarations (head.lead ++ head.name) = [head.declarationAfter []] := by
    obtain ⟨leadNonempty, -⟩ := stands.spec
    obtain ⟨c, rest, text_eq⟩ := List.exists_cons_of_ne_nil
      (List.append_ne_nil_of_left_ne_nil leadNonempty head.name)
    have found : DeclarationHead.at? none (c :: rest) = some head := by
      rw [← text_eq, ← List.append_nil head.name]
      exact stands.found
    have nothingBehind : rest.drop (head.length - 1) = [] :=
      DeclarationHead.drop_length (by rw [List.append_nil, text_eq]) leadNonempty
    rw [declarations, text_eq, Declaration.scanFrom]
    simp only [found, nothingBehind, Declaration.scanFrom]
    simp [DeclarationHead.declarationAfter]
  rw [symbols, declared, List.filterMap_cons_some (stands.symbol?_eq uri), List.filterMap_nil]

/-- The scanner recognises the grammar of declarations.  Its declarations and the symbols of the
document correspond one to one: each is written in the document, with the name of the symbol, a
keyword of its kind and the name where the symbol has its place.  They do not overlap.  Every
declaration that is written is reported, or else starts strictly inside one that is reported and
starts before it. -/
theorem symbols_recognise_grammar (content : Text) (uri : Uri) :
    List.Forall₂
      (fun declaration symbol => ∃ before head after,
        Declaration.Written content declaration before head after ∧
          symbol.name = head.name ∧ symbol.kind = head.keyword.kind ∧ symbol.uri = uri ∧
          symbol.range.start = (before ++ head.lead).endPosition)
      content.declarations (content.symbols uri) ∧
    (content.declarations.Pairwise fun declaration later =>
      declaration.start < declaration.name.stop ∧ declaration.name.stop ≤ later.start) ∧
    ∀ declaration before head after, Declaration.Written content declaration before head after →
      declaration ∈ content.declarations ∨
        ∃ earlier ∈ content.declarations,
          earlier.start < declaration.start ∧ declaration.start < earlier.name.stop := by
  refine ⟨?_, ?_, ?_⟩
  · refine forall₂_filterMap ?_
    intro declaration member
    obtain ⟨before, head, after, stands⟩ := Declaration.stands_of_mem_declarations member
    exact ⟨_, stands.symbol?_eq uri, before, head, after,
      Declaration.stands_iff_written.1 stands, rfl, rfl, rfl, rfl⟩
  · refine List.Pairwise.imp_of_mem ?_ (Declaration.pairwise_start_scanFrom none 0 content)
    intro declaration later member _ apart
    obtain ⟨-, nameBehind, nameNonempty⟩ := Declaration.bounds_of_mem_scanFrom member
    exact ⟨Nat.lt_trans nameBehind nameNonempty, apart⟩
  · intro declaration before head after written
    exact Declaration.mem_scanFrom_or_inside [] before rfl rfl
      (Declaration.stands_iff_written.2 written)

/-- The receiver of a method spells another declaration, which is passed over. -/
theorem symbols_recognise_grammar_in_receiver :
    let content : Text := "func (fn $a) go".toList
    let uri : Uri := ⟨"file:///a".toList⟩
    let head : DeclarationHead :=
      { keyword := .fnKeyword, lead := "fn ".toList, name := "$a".toList }
    let declaration := head.declarationAfter "func (".toList
    Declaration.Written content declaration "func (".toList head ") go".toList ∧
      declaration ∉ content.declarations ∧
      (content.symbols uri).map Symbol.name = ["go".toList] ∧
      ∃ earlier ∈ content.declarations,
        earlier.start < declaration.start ∧ declaration.start < earlier.name.stop := by
  intro content uri head declaration
  have written : Declaration.Written content declaration "func (".toList head ") go".toList :=
    Declaration.stands_iff_written.1 ⟨rfl, by decide +kernel, rfl⟩
  have passedOver : declaration ∉ content.declarations := by decide +kernel
  refine ⟨written, passedOver, by decide +kernel, ?_⟩
  obtain ⟨-, -, complete⟩ := symbols_recognise_grammar content uri
  exact (complete declaration _ head _ written).resolve_left passedOver

end Text

end GotoDefinition
