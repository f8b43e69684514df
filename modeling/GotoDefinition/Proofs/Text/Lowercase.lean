import GotoDefinition.Text.Lowercase

/-!
# Lower case in context

Of what surrounds a word, its lower-case form depends on two bits: whether casing meets a cased
character first when it looks out of the word to the left, and whether it does to the right
(`lowerWithin`).  They matter for capital sigmas only, and only for those that the word does not
settle by itself (`SigmasSettled`).  A word whose sigmas are settled keeps its lower-case form
inside every longer text; any other word loses it in one of two such texts.
-/

namespace GotoDefinition

namespace Text

/-! ## What casing sees -/

/-- Whether a cased character comes first, when `c` stands ahead of something where casing
already knows the answer. -/
def nextCased (c : Char) (further : Bool) : Bool :=
  if isCaseIgnorable c then further else isCased c

def casedIn (text : Text) (further : Bool) : Bool :=
  text.foldr nextCased further

/-- Whether casing stops somewhere in a text. -/
def settlesCase (text : Text) : Bool :=
  text.any fun c => !isCaseIgnorable c

theorem casedIn_cons (c : Char) (rest : Text) (further : Bool) :
    casedIn (c :: rest) further = nextCased c (rest.casedIn further) := rfl

theorem casedIn_false (text : Text) : text.casedIn false = text.leadsToCased := by
  induction text with
  | nil => rfl
  | cons c rest ih =>
    rw [casedIn_cons, ih]
    cases ignored : isCaseIgnorable c with
    | true => simp [nextCased, leadsToCased, ignored]
    | false => simp [nextCased, leadsToCased, ignored]

theorem casedIn_eq (text : Text) (further : Bool) :
    text.casedIn further = if text.settlesCase then text.leadsToCased else further := by
  rw [← casedIn_false]
  induction text with
  | nil => rfl
  | cons c rest ih =>
    rw [casedIn_cons, casedIn_cons, ih]
    cases ignored : isCaseIgnorable c with
    | true => simp [nextCased, settlesCase, ignored]
    | false => simp [nextCased, settlesCase, ignored]

theorem casedIn_append (left right : Text) (further : Bool) :
    (left ++ right).casedIn further = left.casedIn (right.casedIn further) := by
  simp [casedIn]

/-! ## Lower case between known neighbours -/

def sigmaForm (final : Bool) : Char :=
  if final then 'ς' else 'σ'

/-- Whether a capital sigma between `before` and `after` takes its final form. -/
def isFinalSigma (casedBefore casedAfter : Bool) (before after : Text) : Bool :=
  casedIn before.reverse casedBefore && !after.casedIn casedAfter

/-- The lower-case form of a text, given what casing meets ahead of it and behind it. -/
def lowerWithin (casedBefore casedAfter : Bool) : Text → Text
  | [] => []
  | c :: rest =>
    (if c == 'Σ' then [sigmaForm (isFinalSigma casedBefore casedAfter [] rest)]
      else lowerCharacter c) ++ lowerWithin (nextCased c casedBefore) casedAfter rest

theorem toLowerAfter_eq (before text : Text) :
    toLowerAfter before text = lowerWithin before.leadsToCased false text := by
  induction text generalizing before with
  | nil => rfl
  | cons c rest ih =>
    have grown : leadsToCased (c :: before) = nextCased c before.leadsToCased := by
      rw [← casedIn_false, ← casedIn_false]
      rfl
    have final : isFinalSigma before.leadsToCased false [] rest =
        (before.leadsToCased && !leadsToCased rest) := by
      rw [← casedIn_false rest]
      rfl
    rw [toLowerAfter, lowerWithin, ih, grown, final]
    cases before.leadsToCased && !leadsToCased rest <;> rfl

theorem toLower_eq (text : Text) : text.toLower = lowerWithin false false text :=
  toLowerAfter_eq [] text

theorem lowerWithin_append (casedBefore casedAfter : Bool) (left right : Text) :
    lowerWithin casedBefore casedAfter (left ++ right) =
      lowerWithin casedBefore (right.casedIn casedAfter) left ++
        lowerWithin (casedIn left.reverse casedBefore) casedAfter right := by
  induction left generalizing casedBefore with
  | nil => rfl
  | cons c rest ih =>
    have ahead : casedIn (c :: rest).reverse casedBefore =
        casedIn rest.reverse (nextCased c casedBefore) := by
      rw [List.reverse_cons, casedIn_append]
      rfl
    rw [List.cons_append, lowerWithin, lowerWithin, ih, ahead, List.append_assoc]
    simp only [isFinalSigma, casedIn_append]

/-- A capital sigma is a cased character for its neighbours. -/
theorem lowerWithin_sigma (casedBefore casedAfter : Bool) (before after : Text) :
    lowerWithin casedBefore casedAfter (before ++ 'Σ' :: after) =
      lowerWithin casedBefore true before ++
        sigmaForm (isFinalSigma casedBefore casedAfter before after) ::
          lowerWithin true casedAfter after := by
  have sigmaCased : ∀ further, nextCased 'Σ' further = true := by decide
  have behind : casedIn ('Σ' :: after) casedAfter = true := sigmaCased (after.casedIn casedAfter)
  rw [lowerWithin_append, behind, lowerWithin, sigmaCased]
  rfl

/-- How long a lower-case form is does not depend on what surrounds the text. -/
theorem length_lowerWithin (casedBefore casedAfter : Bool) (text : Text) :
    (lowerWithin casedBefore casedAfter text).length = (lowerWithin false false text).length := by
  have independent : ∀ someBefore someAfter otherBefore otherAfter,
      (lowerWithin someBefore someAfter text).length =
        (lowerWithin otherBefore otherAfter text).length := by
    induction text with
    | nil => intros; rfl
    | cons c rest ih =>
      intro someBefore someAfter otherBefore otherAfter
      simp only [lowerWithin, List.length_append]
      rw [ih (nextCased c someBefore) someAfter (nextCased c otherBefore) otherAfter]
      split <;> rfl
  exact independent _ _ _ _

/-! ## Settled sigmas -/

/-- Every capital sigma of a word has its form settled within the word: casing comes to a cased
character behind it; or casing stops ahead of it, at a character that is not cased unless it
stops behind it too. -/
def SigmasSettled (word : Text) : Prop :=
  ∀ before after : Text, word = before ++ 'Σ' :: after →
    after.leadsToCased = true ∨
      before.settlesCase = true ∧
        (after.settlesCase = true ∨ leadsToCased before.reverse = false)

theorem settlesCase_reverse (text : Text) : settlesCase text.reverse = text.settlesCase := by
  simp [settlesCase]

theorem settlesCase_of_leadsToCased {text : Text} (cased : text.leadsToCased = true) :
    text.settlesCase = true := by
  rw [← casedIn_false, casedIn_eq] at cased
  cases settled : text.settlesCase with
  | true => rfl
  | false => simp [settled] at cased

theorem isFinalSigma_eq (casedBefore casedAfter : Bool) (before after : Text) :
    isFinalSigma casedBefore casedAfter before after =
      ((if before.settlesCase then leadsToCased before.reverse else casedBefore) &&
        !(if after.settlesCase then after.leadsToCased else casedAfter)) := by
  rw [isFinalSigma, casedIn_eq, casedIn_eq, settlesCase_reverse]

theorem SigmasSettled.isFinalSigma_eq {word before after : Text} (settled : word.SigmasSettled)
    (word_eq : word = before ++ 'Σ' :: after) (casedBefore casedAfter : Bool) :
    isFinalSigma casedBefore casedAfter before after = isFinalSigma false false before after := by
  rw [Text.isFinalSigma_eq, Text.isFinalSigma_eq]
  rcases settled before after word_eq with cased | ⟨settledBefore, settledAfter | notCased⟩
  · simp [cased, settlesCase_of_leadsToCased cased]
  · simp [settledBefore, settledAfter]
  · simp [settledBefore, notCased]

/-- A word whose sigmas are settled has one lower-case form. -/
theorem SigmasSettled.lowerWithin_eq {word : Text} (settled : word.SigmasSettled)
    (casedBefore casedAfter : Bool) : lowerWithin casedBefore casedAfter word = word.toLower := by
  rw [toLower_eq]
  -- The part of the word that is already read stays in view: sigmas look back into it.
  have rest_eq : ∀ before rest : Text, word = before ++ rest →
      lowerWithin (casedIn before.reverse casedBefore) casedAfter rest =
        lowerWithin (casedIn before.reverse false) false rest := by
    intro before rest word_eq
    induction rest generalizing before with
    | nil => rfl
    | cons c rest ih =>
      have later := ih (before ++ [c]) (by simp [word_eq])
      rw [List.reverse_append, casedIn_append, casedIn_append] at later
      by_cases isSigma : c = 'Σ'
      · subst isSigma
        have sameForm : isFinalSigma (casedIn before.reverse casedBefore) casedAfter [] rest =
            isFinalSigma (casedIn before.reverse false) false [] rest :=
          settled.isFinalSigma_eq word_eq casedBefore casedAfter
        rw [lowerWithin, lowerWithin, sameForm]
        exact congrArg _ later
      · have notSigma : ¬ (c == 'Σ') = true := by simpa using isSigma
        rw [lowerWithin, lowerWithin, if_neg notSigma, if_neg notSigma]
        exact congrArg _ later
  exact rest_eq [] word rfl

/-- A word whose sigmas are settled keeps its lower-case form wherever it occurs. -/
theorem SigmasSettled.toLower_occurs {word text : Text} (settled : word.SigmasSettled)
    (occurs : word <:+: text) : word.toLower <:+: text.toLower := by
  obtain ⟨before, after, rfl⟩ := occurs
  rw [toLower_eq (before ++ word ++ after), lowerWithin_append, lowerWithin_append,
    settled.lowerWithin_eq]
  exact List.infix_append _ _ _

/-! ## Unsettled sigmas -/

/-- The left text is the right one, or has fewer of a character. -/
def Loses (mark : Char) (left right : Text) : Prop :=
  left = right ∨ left.count mark < right.count mark

theorem Loses.count_le {mark : Char} {left right : Text} (loses : Loses mark left right) :
    left.count mark ≤ right.count mark := by
  rcases loses with rfl | fewer
  · exact Nat.le_refl _
  · exact Nat.le_of_lt fewer

theorem Loses.append {mark : Char} {left right otherLeft otherRight : Text}
    (loses : Loses mark left right) (alsoLoses : Loses mark otherLeft otherRight) :
    Loses mark (left ++ otherLeft) (right ++ otherRight) := by
  have atMost := loses.count_le
  have otherAtMost := alsoLoses.count_le
  rcases loses with rfl | fewer
  · rcases alsoLoses with rfl | fewer
    · exact .inl rfl
    · refine .inr ?_
      rw [List.count_append, List.count_append]
      omega
  · refine .inr ?_
    rw [List.count_append, List.count_append]
    omega

/-- If a cased character follows, sigmas can only cease to be final. -/
theorem loses_final (casedBefore : Bool) (word : Text) :
    Loses 'ς' (lowerWithin casedBefore true word) (lowerWithin casedBefore false word) := by
  induction word generalizing casedBefore with
  | nil => exact .inl rfl
  | cons c rest ih =>
    rw [lowerWithin, lowerWithin]
    refine Loses.append ?_ (ih (nextCased c casedBefore))
    split
    · rw [isFinalSigma_eq, isFinalSigma_eq]
      cases settled : settlesCase rest with
      | true => exact .inl rfl
      | false => cases casedBefore <;> simp [Loses, settlesCase, sigmaForm]
    · exact .inl rfl

/-- If a cased character comes before, sigmas can only become final. -/
theorem loses_medial (word : Text) :
    Loses 'σ' (lowerWithin true false word) (lowerWithin false false word) := by
  induction word with
  | nil => exact .inl rfl
  | cons c rest ih =>
    rw [lowerWithin, lowerWithin]
    refine Loses.append ?_ ?_
    · split
      · rw [isFinalSigma_eq, isFinalSigma_eq]
        cases settlesCase rest <;> cases leadsToCased rest <;> simp [Loses, settlesCase, sigmaForm]
      · exact .inl rfl
    · cases ignored : isCaseIgnorable c with
      | true => simpa [nextCased, ignored] using ih
      | false => exact .inl (by simp [nextCased, ignored])

theorem sigmaForm_injective {final other : Bool} (same : sigmaForm final = sigmaForm other) :
    final = other := by
  revert same
  cases final <;> cases other <;> decide

/-- Two kinds of surroundings are enough to tell whether the sigmas of a word are settled. -/
theorem sigmasSettled_of_lowerWithin_eq {word : Text}
    (sameAfter : lowerWithin false true word = word.toLower)
    (sameBefore : lowerWithin true false word = word.toLower) : word.SigmasSettled := by
  rintro before after rfl
  rw [toLower_eq, lowerWithin_sigma, lowerWithin_sigma] at sameAfter sameBefore
  have sameLength : (lowerWithin true true before).length =
      (lowerWithin false true before).length := by
    rw [length_lowerWithin true true, length_lowerWithin false true]
  have afterForm := sigmaForm_injective (List.cons.inj (List.append_cancel_left sameAfter)).1
  have beforeForm := sigmaForm_injective
    (List.cons.inj (List.append_inj_right sameBefore sameLength)).1
  rw [isFinalSigma_eq, isFinalSigma_eq] at afterForm beforeForm
  -- Where casing runs out of the word ahead of the sigma, only a cased character behind it
  -- leaves the form no choice; where it runs out behind, only a character ahead that is not cased.
  cases settledBefore : before.settlesCase with
  | false =>
    rw [settledBefore] at beforeForm
    cases settledAfter : settlesCase after with
    | true =>
      rw [settledAfter] at beforeForm
      exact .inl (by simpa using beforeForm)
    | false =>
      rw [settledAfter] at beforeForm
      simp at beforeForm
  | true =>
    cases settledAfter : settlesCase after with
    | true => exact .inr ⟨rfl, .inl rfl⟩
    | false =>
      rw [settledBefore, settledAfter] at afterForm
      exact .inr ⟨rfl, .inr (by simpa using afterForm)⟩

/-- A word with an unsettled sigma does not keep its lower-case form between an underscore and a
letter, or else not behind a letter. -/
theorem exists_toLower_not_infix {word : Text} (unsettled : ¬ word.SigmasSettled) :
    ¬ word.toLower <:+: toLower ('_' :: (word ++ ['a'])) ∨
      ¬ word.toLower <:+: toLower ('a' :: word) := by
  have between : toLower ('_' :: (word ++ ['a'])) =
      '_' :: (lowerWithin false true word ++ ['a']) := by
    have noCase : nextCased '_' false = false := by decide
    have cased : casedIn ['a'] false = true := by decide
    have letter : ∀ casedBefore, lowerWithin casedBefore false ['a'] = ['a'] := by decide
    have underscore : lowerCharacter '_' = ['_'] := by decide
    rw [toLower_eq, lowerWithin, noCase, lowerWithin_append, cased, letter,
      if_neg (by decide), underscore, List.singleton_append]
  have behind : toLower ('a' :: word) = 'a' :: lowerWithin true false word := by
    have cased : nextCased 'a' false = true := by decide
    have letter : lowerCharacter 'a' = ['a'] := by decide
    rw [toLower_eq, lowerWithin, cased, if_neg (by decide), letter, List.singleton_append]
  have differs : lowerWithin false true word ≠ word.toLower ∨
      lowerWithin true false word ≠ word.toLower := by
    rcases Classical.em (lowerWithin false true word = word.toLower) with sameAfter | differs
    · refine .inr fun sameBefore => unsettled ?_
      exact sigmasSettled_of_lowerWithin_eq sameAfter sameBefore
    · exact .inl differs
  -- The sigma that changes its form is missed in a count, so the form cannot occur elsewhere.
  rcases differs with differs | differs
  · refine .inl fun occurs => ?_
    have fewer := (loses_final false word).resolve_left (by rwa [← toLower_eq])
    have counted := occurs.sublist.count_le 'ς'
    have noLetter : List.count 'ς' ['a'] = 0 := by decide
    rw [between, List.count_cons_of_ne (by decide), List.count_append, noLetter, toLower_eq]
      at counted
    omega
  · refine .inr fun occurs => ?_
    have fewer := (loses_medial word).resolve_left (by rwa [← toLower_eq])
    have counted := occurs.sublist.count_le 'σ'
    rw [behind, List.count_cons_of_ne (by decide), toLower_eq] at counted
    omega

end Text

end GotoDefinition
