import GotoDefinition.Proofs.Resolver
import Mathlib.Data.List.Basic

/-!
# Candidates for different symbols and variants

The resolver filters the symbols and then gives up if too many are left, so that more symbols can
mean fewer links.  What is certain is the other direction: if few enough symbols pass one filter,
few enough of them pass a narrower one (`candidates?_of_filter_sublist`).  This makes candidates
monotone in the list of symbols, and it lets the strict variant refine the lenient one.
-/

namespace GotoDefinition

/-- Where a link leads, wherever it starts. -/
def Link.destination (link : Link) : Uri × Range × Range :=
  (link.uri, link.target, link.selection)

namespace Resolver

variable {compiler : PatternCompiler} {variant other : Variant} {query : Query}
  {symbols more found : List Symbol}

/-! ## Candidates -/

/-- A narrower choice among fewer symbols is not ambiguous if a wider one is not. -/
theorem candidates?_of_filter_sublist
    (fewer : (symbols.filter (isCandidate variant query)).Sublist
      (more.filter (isCandidate other query)))
    (chosen : candidates? other query more = some found) :
    ∃ kept, candidates? variant query symbols = some kept ∧ kept.Sublist found := by
  obtain ⟨few, rfl⟩ := (candidates?_eq_some_iff _ _).1 chosen
  exact ⟨_, (candidates?_eq_some_iff _ _).2 ⟨Nat.le_trans fewer.length_le few, rfl⟩, fewer⟩

theorem candidates?_of_sublist (fewer : symbols.Sublist more)
    (chosen : candidates? variant query more = some found) :
    ∃ kept, candidates? variant query symbols = some kept ∧ kept.Sublist found :=
  candidates?_of_filter_sublist (fewer.filter _) chosen

theorem candidates?_of_perm (reordered : symbols.Perm more) :
    (candidates? variant query symbols = none ∧ candidates? variant query more = none) ∨
      ∃ kept found, candidates? variant query symbols = some kept ∧
        candidates? variant query more = some found ∧ kept.Perm found := by
  have passing := reordered.filter (isCandidate variant query)
  rcases Nat.lt_or_ge ambiguityThreshold (more.filter (isCandidate variant query)).length with
    tooMany | few
  · left
    exact ⟨(candidates?_eq_none_iff _).2 (passing.length_eq ▸ tooMany),
      (candidates?_eq_none_iff _).2 tooMany⟩
  · right
    exact ⟨_, _, (candidates?_eq_some_iff _ _).2 ⟨passing.length_eq ▸ few, rfl⟩,
      (candidates?_eq_some_iff _ _).2 ⟨few, rfl⟩, passing⟩

/-- The strict variant asks for the whole name on the line on top of what the lenient one asks. -/
theorem isCandidate_lenient_of_strict {symbol : Symbol}
    (candidate : isCandidate .strict query symbol = true) :
    isCandidate .lenient query symbol = true := by
  obtain ⟨isMethod, named, -⟩ := (isCandidate_iff symbol).1 candidate
  exact (isCandidate_iff symbol).2 ⟨isMethod, named, fun isStrict => nomatch isStrict⟩

theorem candidates?_strict_of_lenient (chosen : candidates? .lenient query symbols = some found) :
    ∃ kept, candidates? .strict query symbols = some kept ∧ kept.Sublist found :=
  candidates?_of_filter_sublist
    (List.monotone_filter_right symbols fun _ => isCandidate_lenient_of_strict) chosen

/-! ## Links -/

theorem destination_link (symbol : Symbol) :
    (link compiler variant query symbol).destination =
      (symbol.uri, symbol.range, symbol.range) := rfl

theorem links?_strict_of_lenient {links : List Link}
    (linked : links? compiler .lenient query symbols = some links) :
    ∃ kept, links? compiler .strict query symbols = some kept ∧
      (kept.map Link.destination).Sublist (links.map Link.destination) := by
  obtain ⟨found, chosen, rfl⟩ := Option.map_eq_some_iff.1 linked
  obtain ⟨kept, keptChosen, fewer⟩ := candidates?_strict_of_lenient chosen
  refine ⟨kept.map (link compiler .strict query), by rw [links?, keptChosen, Option.map_some], ?_⟩
  -- Links of the two variants differ in where they start only.
  simp only [List.map_map, Function.comp_def, destination_link]
  exact fewer.map _

theorem accepts_lenient_of_strict {word : Text} (accepted : accepts .strict word = true) :
    accepts .lenient word = true := by
  have longEnough : Variant.strict.minimumLength ≤ word.utf16Length := of_decide_eq_true accepted
  exact decide_eq_true (Nat.le_of_succ_le longEnough)

theorem resolve_of_accepts {ε : Type} (search : Text → Except ε (List Symbol))
    (accepted : accepts variant query.word = true) :
    resolve compiler variant query search =
      (search query.word).map (links? compiler variant query) := by
  rw [resolve, if_pos accepted]

theorem resolve_strict_of_lenient {ε : Type} {search : Text → Except ε (List Symbol)}
    (accepted : accepts .strict query.word = true) {links : List Link}
    (resolved : resolve compiler .lenient query search = .ok (some links)) :
    ∃ kept, resolve compiler .strict query search = .ok (some kept) ∧
      (kept.map Link.destination).Sublist (links.map Link.destination) := by
  rw [resolve_of_accepts search (accepts_lenient_of_strict accepted)] at resolved
  rw [resolve_of_accepts search accepted]
  cases searched : search query.word with
  | error reason => simp [searched, Except.map] at resolved
  | ok symbols =>
    have linked : links? compiler .lenient query symbols = some links := by
      simpa [searched, Except.map] using resolved
    obtain ⟨kept, keptLinked, fewer⟩ := links?_strict_of_lenient linked
    exact ⟨kept, by rw [Except.map, keptLinked], fewer⟩

/-- Where the strict variant gives up, the lenient one does. -/
theorem resolve_lenient_eq_none {ε : Type} {search : Text → Except ε (List Symbol)}
    (accepted : accepts .strict query.word = true)
    (gaveUp : resolve compiler .strict query search = .ok none) :
    resolve compiler .lenient query search = .ok none := by
  cases resolved : resolve compiler .lenient query search with
  | error reason =>
    rw [resolve_of_accepts search (accepts_lenient_of_strict accepted)] at resolved
    rw [resolve_of_accepts search accepted] at gaveUp
    cases searched : search query.word <;> simp [searched, Except.map] at resolved gaveUp
  | ok answer =>
    cases answer with
    | none => rfl
    | some links =>
      obtain ⟨kept, keptResolved, -⟩ := resolve_strict_of_lenient accepted resolved
      rw [gaveUp] at keptResolved
      cases keptResolved

/-- Candidates among some symbols are also those among fewer of them, as far as they are there,
and the order of the symbols is only the order of the candidates.  For a word that is long enough
for the strict variant, this variant links to some of the destinations of the lenient one, in
their order, whenever the lenient one links at all, and it gives up only where the lenient one
does. -/
theorem candidates?_monotone_strict_refines :
    (∀ (variant : Variant) (query : Query) (symbols more found : List Symbol),
      symbols.Sublist more → candidates? variant query more = some found →
        ∃ kept, candidates? variant query symbols = some kept ∧ kept.Sublist found) ∧
    (∀ (variant : Variant) (query : Query) (symbols more : List Symbol), symbols.Perm more →
      (candidates? variant query symbols = none ∧ candidates? variant query more = none) ∨
        ∃ kept found, candidates? variant query symbols = some kept ∧
          candidates? variant query more = some found ∧ kept.Perm found) ∧
    ∀ (ε : Type) (compiler : PatternCompiler) (query : Query)
      (search : Text → Except ε (List Symbol)), accepts .strict query.word = true →
        (∀ links, resolve compiler .lenient query search = .ok (some links) →
          ∃ kept, resolve compiler .strict query search = .ok (some kept) ∧
            (kept.map Link.destination).Sublist (links.map Link.destination)) ∧
        (resolve compiler .strict query search = .ok none →
          resolve compiler .lenient query search = .ok none) :=
  ⟨fun _ _ _ _ _ => candidates?_of_sublist, fun _ _ _ _ => candidates?_of_perm,
    fun _ _ _ _ accepted =>
      ⟨fun _ => resolve_strict_of_lenient accepted, resolve_lenient_eq_none accepted⟩⟩

/-- Both variants link, the strict one to two of the three destinations, and with the methods in
another order, or with two of them only, the candidates stay. -/
theorem candidates?_monotone_strict_refines_getters :
    let method (name : String) (line : Nat) : Symbol :=
      { name := name.toList, kind := .method, uri := ⟨"file:///a.rs".toList⟩
        range := ⟨⟨line, 3⟩, ⟨line, 9⟩⟩ }
    let getter := method "getter" 0
    let getting := method "getting" 1
    let get := method "get" 2
    let search : Text → Except Unit (List Symbol) := fun _ => .ok [getter, getting, get]
    let query : Query := { word := "get".toList, line := "x.getter()".toList, position := ⟨0, 3⟩ }
    [getter, get].Sublist [getter, getting, get] ∧
      [get, getter, getting].Perm [getter, getting, get] ∧
      accepts .strict query.word = true ∧
      candidates? .lenient query [getter, getting, get] = some [getter, getting, get] ∧
      (∃ kept, candidates? .lenient query [getter, get] = some kept ∧
        kept.Sublist [getter, getting, get]) ∧
      (∃ kept, candidates? .lenient query [get, getter, getting] = some kept ∧
        kept.Perm [getter, getting, get]) ∧
      ∃ kept, resolve .standard .strict query search = .ok (some kept) ∧
        (kept.map Link.destination).Sublist
          (([getter, getting, get].map (link .standard .lenient query)).map
            Link.destination) := by
  intro method getter getting get search query
  have fewer : [getter, get].Sublist [getter, getting, get] := by decide +kernel
  have reordered : [get, getter, getting].Perm [getter, getting, get] := by decide +kernel
  have accepted : accepts .strict query.word = true := by decide +kernel
  have chosen : candidates? .lenient query [getter, getting, get] = some [getter, getting, get] := by
    decide +kernel
  have linked : resolve .standard .lenient query search =
      .ok (some ([getter, getting, get].map (link .standard .lenient query))) := by
    refine (resolve_eq_ok_some_iff search _).2 ⟨by decide +kernel, _, rfl, ?_⟩
    rw [links?, chosen, Option.map_some]
  obtain ⟨monotone, orderless, refines⟩ := candidates?_monotone_strict_refines
  refine ⟨fewer, reordered, accepted, chosen, monotone _ _ _ _ _ fewer chosen, ?_,
    (refines Unit .standard query search accepted).1 _ linked⟩
  rcases orderless .lenient query _ _ reordered with
    ⟨-, gaveUp⟩ | ⟨kept, found, isKept, isFound, same⟩
  · rw [chosen] at gaveUp
    cases gaveUp
  · obtain rfl := Option.some.inj (chosen.symm.trans isFound)
    exact ⟨kept, isKept, same⟩

end Resolver

end GotoDefinition
