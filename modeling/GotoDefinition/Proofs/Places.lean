import GotoDefinition.Proofs.Grammar

/-!
# Declarations by the text before them

Byte offsets tie a declaration to the whole document that it stands in.  Here the scanner is
seen through texts: a place is a head with the text before it, and the symbols of a document
are those of its places (`symbols_eq_map`).  What happens where two texts meet can be said
about places without any arithmetic.  A line feed is a seam that no declaration reaches across,
so a document has the symbols of the pieces between its line feeds (`symbols_compose`).
-/

namespace GotoDefinition

open DeclarationHead (at?)

/-! ## Places -/

/-- The declarations found from left to right in a text that `before` precedes, each with the
text before it. -/
def placesFrom (before : Text) : Text → List (Text × DeclarationHead)
  | [] => []
  | c :: rest =>
    match at? before.getLast? (c :: rest) with
    | some head =>
      (before, head) ::
        placesFrom (before ++ (head.lead ++ head.name)) (rest.drop (head.length - 1))
    | none => placesFrom (before ++ [c]) rest
termination_by text => text.length
decreasing_by
  · simp only [List.length_drop, List.length_cons]; omega
  · simp

section

variable {before : Text}

@[simp] theorem placesFrom_nil : placesFrom before [] = [] := by
  rw [placesFrom]

theorem placesFrom_found {head : DeclarationHead} {after : Text} (leadNonempty : head.lead ≠ [])
    (found : at? before.getLast? (head.lead ++ (head.name ++ after)) = some head) :
    placesFrom before (head.lead ++ (head.name ++ after)) =
      (before, head) :: placesFrom (before ++ (head.lead ++ head.name)) after := by
  obtain ⟨c, rest, text_eq⟩ := List.exists_cons_of_ne_nil
    (List.append_ne_nil_of_left_ne_nil leadNonempty (head.name ++ after))
  rw [text_eq] at found ⊢
  rw [placesFrom, found]
  simp only [DeclarationHead.drop_length text_eq.symm leadNonempty]

theorem placesFrom_skip {c : Char} {rest : Text}
    (notFound : at? before.getLast? (c :: rest) = none) :
    placesFrom before (c :: rest) = placesFrom (before ++ [c]) rest := by
  rw [placesFrom, notFound]

end

/-- Induction along the places of a text: the scan either takes a whole head off the text or
passes over one character. -/
@[elab_as_elim]
theorem placeByPlace {motive : Text → Text → Prop} (nothing : ∀ before, motive before [])
    (place : ∀ before head after,
      at? before.getLast? (head.lead ++ (head.name ++ after)) = some head → head.lead ≠ [] →
      motive (before ++ (head.lead ++ head.name)) after →
      motive before (head.lead ++ (head.name ++ after)))
    (skip : ∀ before c rest, at? before.getLast? (c :: rest) = none →
      motive (before ++ [c]) rest → motive before (c :: rest))
    (before text : Text) : motive before text := by
  fun_induction placesFrom before text with
  | case1 before => exact nothing before
  | case2 before c rest head found ih =>
    obtain ⟨leadNonempty, -, -, after, text_eq⟩ := DeclarationHead.at?_spec found
    rw [DeclarationHead.drop_length text_eq leadNonempty] at ih
    rw [text_eq] at found ⊢
    exact place before head after found leadNonempty ih
  | case3 before c rest notFound ih => exact skip before c rest notFound ih

theorem scanFrom_eq_map (before text : Text) :
    Declaration.scanFrom before.getLast? before.utf8Length text =
      (placesFrom before text).map fun place => place.2.declarationAfter place.1 := by
  fun_induction placesFrom before text with
  | case1 => simp [Declaration.scanFrom]
  | case2 before c rest head found ih =>
    obtain ⟨-, nameNonempty, -⟩ := DeclarationHead.at?_spec found
    -- The scanner goes on behind the name, so that is where the text before has to end.
    have lastCharacter := DeclarationHead.getLast?_name before nameNonempty
    have nextOffset : before.utf8Length + Text.utf8Length head.lead + Text.utf8Length head.name =
        (before ++ (head.lead ++ head.name)).utf8Length := by
      simp [Nat.add_assoc]
    rw [Declaration.scanFrom]
    simp only [found, lastCharacter, nextOffset, ih, List.map_cons]
    simp [DeclarationHead.declarationAfter]
  | case3 before c rest notFound ih =>
    rw [Declaration.scanFrom]
    simpa [notFound] using ih

theorem stands_of_mem_placesFrom {before text : Text} {place : Text × DeclarationHead}
    (member : place ∈ placesFrom before text) :
    ∃ after, Declaration.Stands (before ++ text) (place.2.declarationAfter place.1) place.1
      place.2 after := by
  induction before, text using placeByPlace with
  | nothing before => simp at member
  | place before head after found leadNonempty ih =>
    rw [placesFrom_found leadNonempty found] at member
    rcases List.mem_cons.1 member with rfl | later
    · exact ⟨after, rfl, found, rfl⟩
    · simpa using ih later
  | skip before c rest notFound ih =>
    rw [placesFrom_skip notFound] at member
    simpa using ih member

theorem symbols_eq_map (content : Text) (uri : Uri) :
    content.symbols uri =
      (placesFrom [] content).map fun place => place.2.symbolAfter uri place.1 := by
  have declared : content.declarations = _ := scanFrom_eq_map [] content
  rw [Text.symbols, declared, List.filterMap_map, ← List.filterMap_eq_map]
  refine List.filterMap_congr ?_
  intro place member
  obtain ⟨after, stands⟩ := stands_of_mem_placesFrom member
  exact stands.symbol?_eq uri

/-! ## Seams -/

namespace DeclarationHead

variable {head : DeclarationHead} {after other : Text}

theorem Written.ahead (written : head.Written after)
    (ended : ∀ c ∈ other.head?, isNamePart c = false) : head.Written other :=
  ⟨written.lead, written.name.spelled, ended⟩

theorem Written.not_mem_name {c : Char} (written : head.Written after)
    (ends : isNamePart c = false) : c ∉ head.name := by
  obtain ⟨first, rest, name_eq, isStart, parts⟩ := written.name.spelled
  rw [name_eq, List.mem_cons]
  rintro (rfl | member)
  · rw [Text.isNamePart_of_isNameStart isStart] at ends
    cases ends
  · exact ne_of_class (parts c member) ends rfl

theorem Written.feed_not_mem_lead (written : head.Written after) : '\n' ∉ head.lead := by
  obtain ⟨gap, receiver, lead_eq, -, blank, isReceiver⟩ := written.lead
  have inKeyword : '\n' ∉ head.keyword.spelling := by
    cases head.keyword <;> decide
  have inGap : '\n' ∉ gap := fun member => ne_of_class (blank _ member) rfl rfl
  have inReceiver : '\n' ∉ receiver := by
    cases isReceiver with
    | absent => exact List.not_mem_nil
    | present closedOnce blank =>
      rename_i inside gap
      have inInside : '\n' ∉ inside := fun member => (closedOnce _ member).2 rfl
      have behind : '\n' ∉ gap := fun member => ne_of_class (blank _ member) rfl rfl
      simp [inInside, behind]
  rw [lead_eq]
  simp [inKeyword, inGap, inReceiver]

/-- A head stays where it is when a character that ends its name comes behind the text. -/
theorem at?_append {previous : Option Char} {text : Text} {c : Char} (ends : isNamePart c = false)
    (behind : Text) (found : at? previous text = some head) :
    at? previous (text ++ c :: behind) = some head := by
  obtain ⟨apart, after, rfl, written⟩ := (at?_eq_some_iff _ _ _).1 found
  refine (at?_eq_some_iff _ _ _).2 ⟨apart, after ++ c :: behind, by simp, written.ahead ?_⟩
  cases after with
  | nil => simpa using ends
  | cons d after => simpa using written.name.ended

/-- A head whose lead does not have the character lies on one side of it. -/
theorem at?_of_append {previous : Option Char} {text behind : Text} {c : Char}
    (ends : isNamePart c = false) (found : at? previous (text ++ c :: behind) = some head)
    (kept : c ∉ head.lead) : at? previous text = some head := by
  obtain ⟨apart, after, text_eq, written⟩ := (at?_eq_some_iff _ _ _).1 found
  have outside : c ∉ head.lead ++ head.name := by
    simp [kept, written.not_mem_name ends]
  rw [← List.append_assoc] at text_eq
  refine (at?_eq_some_iff _ _ _).2 ⟨apart, ?_⟩
  rcases List.append_eq_append_iff.1 text_eq with ⟨inside, head_eq, behind_eq⟩ | ⟨rest, rfl, rfl⟩
  · cases inside with
    | nil => exact ⟨[], by simpa using head_eq.symm, written.ahead (by simp)⟩
    | cons d inside =>
      obtain ⟨rfl, -⟩ := List.cons.inj behind_eq
      exact absurd (head_eq ▸ by simp) outside
  · refine ⟨rest, by simp, written.ahead ?_⟩
    intro d first
    exact written.name.ended d (by cases rest <;> simp_all)

/-- The character before a text only matters in that it may be part of a word. -/
theorem at?_congr {previous other : Option Char} (text : Text)
    (same : previous.any isWordCharacter = other.any isWordCharacter) :
    at? previous text = at? other text := by
  rw [at?, at?, same]

end DeclarationHead

/-- A character that ends names is a seam, unless it is in the lead of a declaration. -/
theorem placesFrom_append {c : Char} (ends : isNamePart c = false) {before text behind : Text}
    (kept : ∀ place ∈ placesFrom before (text ++ c :: behind), c ∉ place.2.lead) :
    placesFrom before (text ++ c :: behind) =
      placesFrom before text ++ placesFrom (before ++ (text ++ [c])) behind := by
  induction before, text using placeByPlace with
  | nothing before =>
    cases found : at? before.getLast? (c :: behind) with
    | none =>
      rw [List.nil_append, placesFrom_skip found]
      simp
    | some head =>
      -- A declaration that starts with the character has it in its lead.
      obtain ⟨leadNonempty, -, -, after, text_eq⟩ := DeclarationHead.at?_spec found
      obtain ⟨d, rest, lead_eq⟩ := List.exists_cons_of_ne_nil leadNonempty
      obtain ⟨rfl, -⟩ : c = d ∧ _ := List.cons.inj (by rw [text_eq, lead_eq]; rfl)
      rw [List.nil_append, text_eq, placesFrom_found leadNonempty (text_eq ▸ found)] at kept
      exact absurd (lead_eq ▸ List.mem_cons_self) (kept _ List.mem_cons_self)
  | place before head after found leadNonempty ih =>
    have across := DeclarationHead.at?_append ends behind found
    rw [List.append_assoc, List.append_assoc] at across
    rw [List.append_assoc, List.append_assoc, placesFrom_found leadNonempty across] at kept ⊢
    rw [placesFrom_found leadNonempty found,
      ih fun place member => kept place (List.mem_cons_of_mem _ member)]
    simp
  | skip before d rest notFound ih =>
    have across : at? before.getLast? (d :: (rest ++ c :: behind)) = none := by
      cases found : at? before.getLast? (d :: (rest ++ c :: behind)) with
      | none => rfl
      | some head =>
        obtain ⟨leadNonempty, -, -, after, text_eq⟩ := DeclarationHead.at?_spec found
        rw [List.cons_append, text_eq, placesFrom_found leadNonempty (text_eq ▸ found)] at kept
        rw [DeclarationHead.at?_of_append ends found (kept _ List.mem_cons_self)] at notFound
        cases notFound
    rw [List.cons_append, placesFrom_skip across] at kept ⊢
    rw [placesFrom_skip notFound, ih kept]
    simp

theorem feed_not_mem_lead {before text : Text} {place : Text × DeclarationHead}
    (member : place ∈ placesFrom before text) : '\n' ∉ place.2.lead := by
  obtain ⟨after, stands⟩ := stands_of_mem_placesFrom member
  exact (Declaration.stands_iff_written.1 stands).written.feed_not_mem_lead

/-- More text in front moves the places and finds no others, if it does not end in a word. -/
theorem placesFrom_append_left {front : Text}
    (apart : ∀ c ∈ front.getLast?, isWordCharacter c = false) (before text : Text) :
    placesFrom (front ++ before) text =
      (placesFrom before text).map fun place => (front ++ place.1, place.2) := by
  have sameWord (before : Text) : (front ++ before).getLast?.any isWordCharacter =
      before.getLast?.any isWordCharacter := by
    rw [List.getLast?_append]
    cases before.getLast? with
    | none =>
      cases last : front.getLast? with
      | none => rfl
      | some c => simp [apart c last]
    | some c => rfl
  have sameRead (before text : Text) : at? (front ++ before).getLast? text =
      at? before.getLast? text := DeclarationHead.at?_congr text (sameWord before)
  induction before, text using placeByPlace with
  | nothing before => simp
  | place before head after found leadNonempty ih =>
    rw [placesFrom_found leadNonempty found,
      placesFrom_found leadNonempty ((sameRead before _).trans found), List.append_assoc, ih]
    rfl
  | skip before c rest notFound ih =>
    rw [placesFrom_skip notFound, placesFrom_skip ((sameRead before _).trans notFound),
      List.append_assoc, ih]

/-! ## Symbols further down -/

/-- The position so many lines further down. -/
def Position.movedDown (lines : Nat) (position : Position) : Position :=
  { position with line := lines + position.line }

/-- The same symbol so many lines further down. -/
def Symbol.movedDown (lines : Nat) (symbol : Symbol) : Symbol :=
  { symbol with
    range :=
      { start := symbol.range.start.movedDown lines
        stop := symbol.range.stop.movedDown lines } }

theorem Symbol.movedDown_zero (symbol : Symbol) : symbol.movedDown 0 = symbol := by
  simp [movedDown, Position.movedDown]

theorem Symbol.movedDown_movedDown (lines more : Nat) (symbol : Symbol) :
    (symbol.movedDown more).movedDown lines = symbol.movedDown (lines + more) := by
  simp [movedDown, Position.movedDown, Nat.add_assoc]

namespace Text

theorem not_splitsBreak_of_front {before after start : Text} (whole : ¬ SplitsBreak before after)
    (atFront : start <+: after) : ¬ SplitsBreak before start := by
  rintro ⟨isReturn, feed⟩
  obtain ⟨rest, rfl⟩ := atFront
  exact whole ⟨isReturn, by rw [List.head?_append, feed]; rfl⟩

theorem outside_of_isTerminator {c : Char} (isEnd : isTerminator c = true) :
    isNamePart c = false ∧ isWordCharacter c = false := by
  rcases (isTerminator_eq_true_iff c).1 isEnd with rfl | rfl <;> decide

variable {c : Char} (isEnd : isTerminator c = true) {front behind : Text}

include isEnd

theorem endPosition_append_terminator (whole : ¬ SplitsBreak (front ++ [c]) behind) :
    (front ++ [c] ++ behind).endPosition =
      behind.endPosition.movedDown (front ++ [c]).breakCount := by
  have lastLine_eq : lastLine (front ++ [c] ++ behind) = lastLine behind := by
    rw [List.append_assoc]
    exact lastLine_append_terminator front isEnd behind
  simp only [endPosition, breakCount_append whole, lastLine_eq, Position.movedDown]

theorem placesFrom_append_terminator
    (kept : ∀ place ∈ placesFrom [] (front ++ c :: behind), c ∉ place.2.lead) :
    placesFrom [] (front ++ c :: behind) =
      placesFrom [] front ++
        (placesFrom [] behind).map fun place => (front ++ [c] ++ place.1, place.2) := by
  obtain ⟨ends, notInWord⟩ := outside_of_isTerminator isEnd
  have apart : ∀ d ∈ (front ++ [c]).getLast?, isWordCharacter d = false := by simp [notInWord]
  have moved := placesFrom_append_left apart [] behind
  rw [List.append_nil] at moved
  rw [placesFrom_append ends kept, List.nil_append, moved]

/-- A terminator is a seam between the symbols of the texts around it, unless it is in the lead
of a declaration or only half of a break. -/
theorem symbols_append_terminator (whole : ¬ SplitsBreak (front ++ [c]) behind)
    (kept : ∀ place ∈ placesFrom [] (front ++ c :: behind), c ∉ place.2.lead) (uri : Uri) :
    (front ++ c :: behind).symbols uri =
      front.symbols uri ++
        (behind.symbols uri).map (Symbol.movedDown (front ++ [c]).breakCount) := by
  rw [symbols_eq_map, symbols_eq_map front, symbols_eq_map behind,
    placesFrom_append_terminator isEnd kept, List.map_append, List.map_map, List.map_map]
  congr 1
  refine List.map_congr_left ?_
  intro place member
  obtain ⟨after, stands⟩ := stands_of_mem_placesFrom member
  have content_eq := stands.content_eq
  rw [List.nil_append] at content_eq
  -- The texts before the name and behind it are both beginnings of the text behind the seam.
  have start := endPosition_append_terminator isEnd (not_splitsBreak_of_front whole
    (⟨place.2.name ++ after, by simp [content_eq]⟩ : place.1 ++ place.2.lead <+: behind))
  have stop := endPosition_append_terminator isEnd (not_splitsBreak_of_front whole
    (⟨after, by simp [content_eq]⟩ : place.1 ++ place.2.lead ++ place.2.name <+: behind))
  simp only [← List.append_assoc] at start stop
  simp only [Function.comp_apply, DeclarationHead.symbolAfter, Symbol.movedDown, start, stop]

omit isEnd

theorem symbols_append_feed (front behind : Text) (uri : Uri) :
    (front ++ '\n' :: behind).symbols uri =
      front.symbols uri ++
        (behind.symbols uri).map (Symbol.movedDown (front ++ ['\n']).breakCount) := by
  -- The feed completes a carriage return at the end of the front, and nothing completes the feed.
  have whole : ¬ SplitsBreak (front ++ ['\n']) behind := by
    rintro ⟨isReturn, -⟩
    simp at isReturn
  exact symbols_append_terminator rfl whole (fun place member => feed_not_mem_lead member) uri

/-! ## Pieces -/

/-- The symbols of the pieces of a document, each piece ending in a line feed and `lines`
lines standing above the first one. -/
def symbolsOfPieces (uri : Uri) : Nat → List Text → List Symbol
  | _, [] => []
  | lines, piece :: pieces =>
    (piece.symbols uri).map (Symbol.movedDown lines) ++
      symbolsOfPieces uri (lines + (piece ++ ['\n']).breakCount) pieces

theorem splitWhere_of_not_mem {piece : Text} (unbroken : '\n' ∉ piece) :
    piece.splitWhere (· == '\n') = [piece] := by
  induction piece with
  | nil => rfl
  | cons c piece ih =>
    obtain ⟨notFeed, later⟩ := List.ne_and_not_mem_of_not_mem_cons unbroken
    rw [splitWhere, ih later, if_neg (by simpa using notFeed.symm)]

theorem splitWhere_append_feed {piece : Text} (unbroken : '\n' ∉ piece) (behind : Text) :
    (piece ++ '\n' :: behind).splitWhere (· == '\n') =
      piece :: behind.splitWhere (· == '\n') := by
  induction piece with
  | nil => simp [splitWhere]
  | cons c piece ih =>
    obtain ⟨notFeed, later⟩ := List.ne_and_not_mem_of_not_mem_cons unbroken
    rw [List.cons_append, splitWhere, ih later, if_neg (by simpa using notFeed.symm)]

theorem symbolsOfPieces_splitWhere (uri : Uri) (lines : Nat) (content : Text) :
    symbolsOfPieces uri lines (content.splitWhere (· == '\n')) =
      (content.symbols uri).map (Symbol.movedDown lines) := by
  by_cases broken : '\n' ∈ content
  · obtain ⟨piece, behind, rfl, unbroken⟩ := List.eq_append_cons_of_mem broken
    rw [splitWhere_append_feed unbroken, symbolsOfPieces, symbolsOfPieces_splitWhere,
      symbols_append_feed, List.map_append, List.map_map]
    congr 2
    funext symbol
    exact (symbol.movedDown_movedDown lines _).symm
  · rw [splitWhere_of_not_mem broken]
    simp [symbolsOfPieces]
termination_by content.length
decreasing_by
  subst_vars
  simp only [List.length_append, List.length_cons]
  omega

/-- Scanning is compositional over line feeds.  The symbols of two texts with a line feed in
between are those of the first and, further down by the lines of the first, those of the
second; and so a document has the symbols of the pieces between its line feeds. -/
theorem symbols_compose (uri : Uri) :
    (∀ front behind : Text, (front ++ '\n' :: behind).symbols uri =
      front.symbols uri ++
        (behind.symbols uri).map (Symbol.movedDown (front ++ ['\n']).breakCount)) ∧
    ∀ content : Text,
      content.symbols uri = symbolsOfPieces uri 0 (content.splitWhere (· == '\n')) := by
  refine ⟨fun front behind => symbols_append_feed front behind uri, ?_⟩
  intro content
  rw [symbolsOfPieces_splitWhere, List.map_id'' Symbol.movedDown_zero]

end Text

end GotoDefinition
