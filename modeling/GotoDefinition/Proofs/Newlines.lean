import GotoDefinition.Proofs.Places

/-!
# The three line breaks

A line feed, a carriage return and the two together all break a line.  Writing every break as a
line feed keeps the lines of a document.  It does not keep the symbols: a receiver ends at a line
feed but runs on over a carriage return, so a declaration may begin on one line and have its
name on another.  With line feeds a document has the symbols of its lines, each scanned alone
(`symbols_withLineFeeds`), and these are its own symbols as long as no carriage return stands in
the lead of a declaration.
-/

namespace GotoDefinition

namespace Text

/-! ## One kind of break -/

/-- The text with every line break written as a line feed. -/
def withLineFeeds : Text → Text
  | [] => []
  | '\r' :: '\n' :: rest => '\n' :: withLineFeeds rest
  | c :: rest => (if c == '\r' then '\n' else c) :: withLineFeeds rest

theorem withLineFeeds_append_of_onOneLine {line : Text} (unbroken : OnOneLine line) (rest : Text) :
    withLineFeeds (line ++ rest) = line ++ withLineFeeds rest := by
  induction line with
  | nil => rfl
  | cons c line ih =>
    have notReturn := ((isTerminator_eq_false_iff c).1 unbroken.head).2
    rw [List.cons_append, withLineFeeds, ih unbroken.tail, if_neg (by simpa using notReturn)]
    · rfl
    · intro after isReturn
      exact absurd isReturn notReturn

theorem withLineFeeds_of_onOneLine {line : Text} (unbroken : OnOneLine line) :
    withLineFeeds line = line := by
  simpa [withLineFeeds] using withLineFeeds_append_of_onOneLine unbroken []

theorem withLineFeeds_lineBreak {mark rest : Text} (isBreak : LineBreak mark rest) :
    withLineFeeds (mark ++ rest) = '\n' :: withLineFeeds rest := by
  cases isBreak with
  | lineFeed => simp [withLineFeeds]
  | both => simp [withLineFeeds]
  | carriageReturn alone =>
    rw [List.singleton_append, withLineFeeds, if_pos (by decide)]
    rintro after - rfl
    exact alone rfl

theorem withLineFeeds_nextLine {line mark rest : Text} (unbroken : OnOneLine line)
    (isBreak : LineBreak mark rest) :
    withLineFeeds (line ++ (mark ++ rest)) = line ++ ('\n' :: withLineFeeds rest) := by
  rw [withLineFeeds_append_of_onOneLine unbroken, withLineFeeds_lineBreak isBreak]

theorem lineAt_withLineFeeds (content : Text) (n : Nat) :
    content.withLineFeeds.lineAt n = content.lineAt n := by
  induction content using lineByLine generalizing n with
  | lastLine line unbroken => rw [withLineFeeds_of_onOneLine unbroken]
  | nextLine line mark rest unbroken isBreak ih =>
    rw [withLineFeeds_nextLine unbroken isBreak]
    cases n with
    | zero =>
      rw [lineAt_zero_nextLine unbroken isBreak]
      exact lineAt_zero_nextLine unbroken (.lineFeed _)
    | succ n =>
      rw [lineAt_nextLine unbroken isBreak, ← ih n]
      exact lineAt_nextLine unbroken (.lineFeed _) n

/-! ## Line by line -/

/-- The symbols of the lines of a document, each line scanned as a document of its own. -/
def symbolsByLine (content : Text) (uri : Uri) : List Symbol :=
  (List.range (content.breakCount + 1)).flatMap fun n =>
    (((content.lineAt n).getD []).symbols uri).map (Symbol.movedDown n)

theorem breakCount_append_mark {line mark rest : Text} (unbroken : OnOneLine line)
    (isBreak : LineBreak mark rest) : (line ++ mark).breakCount = 1 := by
  rw [breakCount_append_of_onOneLine unbroken]
  cases isBreak <;> rfl

theorem symbolsByLine_of_onOneLine {line : Text} (unbroken : OnOneLine line) (uri : Uri) :
    line.symbolsByLine uri = line.symbols uri := by
  simp [symbolsByLine, breakCount_of_onOneLine unbroken, lineAt_zero_of_onOneLine unbroken,
    List.map_id'' Symbol.movedDown_zero]

theorem symbolsByLine_nextLine {line mark rest : Text} (unbroken : OnOneLine line)
    (isBreak : LineBreak mark rest) (uri : Uri) :
    symbolsByLine (line ++ (mark ++ rest)) uri =
      line.symbols uri ++ (rest.symbolsByLine uri).map (Symbol.movedDown 1) := by
  have firstLine := lineAt_zero_nextLine unbroken isBreak
  have lines : (line ++ (mark ++ rest)).breakCount = rest.breakCount + 1 := by
    rw [breakCount_append_of_onOneLine unbroken, breakCount_lineBreak isBreak]
  rw [symbolsByLine, lines, List.range_succ_eq_map, List.flatMap_cons, firstLine,
    List.flatMap_map]
  -- The lines of the rest come one line further down.
  simp [symbolsByLine, lineAt_nextLine unbroken isBreak, List.map_flatMap,
    Symbol.movedDown_movedDown, Nat.add_comm 1, List.map_id'' Symbol.movedDown_zero,
    Function.comp_def]

theorem symbols_withLineFeeds (content : Text) (uri : Uri) :
    content.withLineFeeds.symbols uri = content.symbolsByLine uri := by
  induction content using lineByLine with
  | lastLine line unbroken =>
    rw [withLineFeeds_of_onOneLine unbroken, symbolsByLine_of_onOneLine unbroken]
  | nextLine line mark rest unbroken isBreak ih =>
    rw [withLineFeeds_nextLine unbroken isBreak, symbols_append_feed, ih,
      breakCount_append_mark unbroken (.lineFeed rest), symbolsByLine_nextLine unbroken isBreak]

/-! ## Declarations on one line -/

/-- No declaration of the document has a carriage return in its lead. -/
def LeadsOnOneLine (content : Text) : Prop :=
  ∀ place ∈ placesFrom [] content, '\r' ∉ place.2.lead

theorem LeadsOnOneLine.not_mem {content : Text} (kept : LeadsOnOneLine content) {c : Char}
    (isEnd : isTerminator c = true) : ∀ place ∈ placesFrom [] content, c ∉ place.2.lead := by
  rcases (isTerminator_eq_true_iff c).1 isEnd with rfl | rfl
  · exact fun place member => feed_not_mem_lead member
  · exact kept

theorem LeadsOnOneLine.split {c : Char} {front behind : Text} (isEnd : isTerminator c = true)
    (kept : LeadsOnOneLine (front ++ c :: behind)) :
    LeadsOnOneLine front ∧ LeadsOnOneLine behind := by
  have parts := placesFrom_append_terminator isEnd (kept.not_mem isEnd)
  unfold LeadsOnOneLine at kept
  rw [parts] at kept
  constructor
  · intro place member
    exact kept place (List.mem_append_left _ member)
  · intro place member
    exact kept (front ++ [c] ++ place.1, place.2)
      (List.mem_append_right _ (List.mem_map.2 ⟨place, member, rfl⟩))

/-- The symbols of a document that begins with a whole line. -/
theorem LeadsOnOneLine.nextLine {line mark rest : Text} (unbroken : OnOneLine line)
    (isBreak : LineBreak mark rest) (kept : LeadsOnOneLine (line ++ (mark ++ rest))) (uri : Uri) :
    LeadsOnOneLine rest ∧ symbols (line ++ (mark ++ rest)) uri =
      line.symbols uri ++ (rest.symbols uri).map (Symbol.movedDown 1) := by
  have count := breakCount_append_mark unbroken isBreak
  cases isBreak with
  | lineFeed =>
    refine ⟨(kept.split (c := '\n') rfl).2, ?_⟩
    rw [← count]
    exact symbols_append_feed line rest uri
  | both =>
    have shifted : line ++ (['\r', '\n'] ++ rest) = (line ++ ['\r']) ++ '\n' :: rest := by simp
    rw [shifted] at kept ⊢
    obtain ⟨keptLine, keptRest⟩ := kept.split rfl
    -- The carriage return alone has nothing behind it, and so it only ends the line.
    have lineSymbols : symbols (line ++ ['\r']) uri = line.symbols uri ++ _ :=
      symbols_append_terminator rfl (fun splits => by cases splits.2) (keptLine.not_mem rfl) uri
    have nothing : symbols [] uri = [] := by simp [symbols_eq_map]
    refine ⟨keptRest, ?_⟩
    rw [symbols_append_feed, lineSymbols, nothing, ← count]
    simp
  | carriageReturn alone =>
    refine ⟨(kept.split (c := '\r') rfl).2, ?_⟩
    rw [← count]
    exact symbols_append_terminator rfl (fun splits => alone splits.2) (kept.not_mem rfl) uri

theorem LeadsOnOneLine.symbols_eq {content : Text} (kept : LeadsOnOneLine content) (uri : Uri) :
    content.symbols uri = content.symbolsByLine uri := by
  induction content using lineByLine with
  | lastLine line unbroken => exact (symbolsByLine_of_onOneLine unbroken uri).symm
  | nextLine line mark rest unbroken isBreak ih =>
    obtain ⟨keptRest, symbols_eq⟩ := kept.nextLine unbroken isBreak uri
    rw [symbols_eq, symbolsByLine_nextLine unbroken isBreak, ih keptRest]

theorem leadsOnOneLine_of_slices {content : Text}
    (kept : ∀ declaration ∈ content.declarations,
      ∀ lead ∈ content.slice? declaration.start declaration.name.start, '\r' ∉ lead) :
    LeadsOnOneLine content := by
  intro place member
  have declared : content.declarations = _ := scanFrom_eq_map [] content
  obtain ⟨after, stands⟩ := stands_of_mem_placesFrom member
  refine kept (place.2.declarationAfter place.1) ?_ _ ?_
  · rw [declared]
    exact List.mem_map.2 ⟨place, member, rfl⟩
  · have lead := slice?_append place.1 place.2.lead (place.2.name ++ after)
    rw [← utf8Length_append, ← stands.content_eq] at lead
    exact lead

/-! ## Symbols and the style of the breaks -/

/-- What is left of a document when all its breaks are written as line feeds: its lines, and the
symbols of these lines.  They are the symbols of the document itself if none of its declarations
has a carriage return between its keyword and its name. -/
theorem withLineFeeds_keeps (content : Text) (uri : Uri) :
    (∀ n, content.withLineFeeds.lineAt n = content.lineAt n) ∧
    content.withLineFeeds.symbols uri = content.symbolsByLine uri ∧
    ((∀ declaration ∈ content.declarations,
        ∀ lead ∈ content.slice? declaration.start declaration.name.start, '\r' ∉ lead) →
      content.withLineFeeds.symbols uri = content.symbols uri) := by
  refine ⟨lineAt_withLineFeeds content, symbols_withLineFeeds content uri, ?_⟩
  intro kept
  rw [symbols_withLineFeeds, (leadsOnOneLine_of_slices kept).symbols_eq]

/-- A document with all three breaks, one of them where a receiver might have gone on. -/
theorem withLineFeeds_keeps_three_breaks :
    let content : Text := "fn a\rfn (\r\nfn (b) c\nfn d".toList
    let uri : Uri := ⟨"file:///a".toList⟩
    (∀ declaration ∈ content.declarations,
      ∀ lead ∈ content.slice? declaration.start declaration.name.start, '\r' ∉ lead) ∧
      content.withLineFeeds = "fn a\nfn (\nfn (b) c\nfn d".toList ∧
      content.withLineFeeds.symbols uri = content.symbols uri ∧
      (content.symbols uri).map (fun symbol => (symbol.name, symbol.range.start)) =
        [("a".toList, ⟨0, 3⟩), ("c".toList, ⟨2, 7⟩), ("d".toList, ⟨3, 3⟩)] := by
  intro content uri
  have kept : ∀ declaration ∈ content.declarations,
      ∀ lead ∈ content.slice? declaration.start declaration.name.start, '\r' ∉ lead := by
    decide +kernel
  obtain ⟨-, -, same⟩ := withLineFeeds_keeps content uri
  exact ⟨kept, by decide +kernel, same kept, by decide +kernel⟩

/-- A receiver that goes on over a carriage return: with a line feed there the declaration is
gone, so the symbols do depend on the style of the breaks. -/
theorem symbols_withLineFeeds_ne :
    let content : Text := "func (a\r) foo".toList
    let uri : Uri := ⟨"file:///a.go".toList⟩
    content.withLineFeeds = "func (a\n) foo".toList ∧
      content.withLineFeeds.symbols uri = [] ∧
      content.symbols uri =
        [{ name := "foo".toList, kind := .method, uri, range := ⟨⟨1, 2⟩, ⟨1, 5⟩⟩ }] := by
  decide +kernel

end Text

end GotoDefinition
