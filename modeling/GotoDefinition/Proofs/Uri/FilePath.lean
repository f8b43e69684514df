import GotoDefinition.Proofs.Text.Utf8
import GotoDefinition.Uri.FilePath
import Mathlib.Data.List.TakeWhile

/-!
# Paths and their URIs

The URI that a path is written as names the same file again: its path has the same components.
So of all URIs that name a file there is one that indexing the file uses, and it can be read off
any of them (`ofFilePath?_of_namesFile`).
-/

namespace GotoDefinition

/-! ## Percent encoding -/

namespace Percent

theorem decode_cons_of_ne {byte : UInt8} (notPercent : byte ≠ 0x25) (rest : Bytes) :
    decode (byte :: rest) = byte :: decode rest := by
  have notMark : (byte == 0x25) = false := beq_eq_false_iff_ne.2 notPercent
  cases rest with
  | nil => rfl
  | cons high rest =>
    cases rest with
    | nil => rfl
    | cons low rest => simp [decode, notMark]

theorem hexValue?_hexDigit {n : Nat} (small : n < 16) :
    hexValue? (UInt8.ofNat (hexDigit n).toNat).toNat = some n := by
  revert small
  revert n
  decide

theorem toNat_hexDigit_lt {n : Nat} (small : n < 16) : (hexDigit n).toNat < 128 := by
  revert small
  revert n
  decide

theorem utf8Bytes_encodeByte (byte : UInt8) :
    Text.utf8Bytes (encodeByte byte) =
      [0x25, UInt8.ofNat (hexDigit (byte.toNat / 16)).toNat,
        UInt8.ofNat (hexDigit (byte.toNat % 16)).toNat] := by
  have bounded := byte.toNat_lt
  rw [encodeByte, Text.utf8Bytes_cons_of_ascii (by decide),
    Text.utf8Bytes_cons_of_ascii (toNat_hexDigit_lt (by omega)),
    Text.utf8Bytes_cons_of_ascii (toNat_hexDigit_lt (by omega))]
  rfl

/-- An encoded byte is read back, whether or not it had to be encoded. -/
theorem decode_encodeByteUnless {reserved : Char → Bool} (percent : reserved '%' = true)
    (byte : UInt8) (rest : Bytes) :
    decode (Text.utf8Bytes (encodeByteUnless reserved byte) ++ rest) = byte :: decode rest := by
  simp only [encodeByteUnless]
  split
  next kept =>
    simp only [Bool.and_eq_true, decide_eq_true_eq, Bool.not_eq_true'] at kept
    obtain ⟨ascii, unreserved⟩ := kept
    have code_eq : (Char.ofNat byte.toNat).toNat = byte.toNat := by
      rw [Char.ofNat, dif_pos (.inl (by omega))]
      rfl
    -- A byte that stands for itself must not look like the beginning of an encoded one.
    have notPercent : byte ≠ 0x25 := by
      rintro rfl
      rw [show Char.ofNat (0x25 : UInt8).toNat = '%' from rfl, percent] at unreserved
      cases unreserved
    rw [Text.utf8Bytes_cons_of_ascii (by rwa [code_eq]), code_eq, UInt8.ofNat_toNat]
    exact decode_cons_of_ne notPercent rest
  next =>
    have bounded := byte.toNat_lt
    have whole : 16 * (byte.toNat / 16) + byte.toNat % 16 = byte.toNat := by omega
    rw [utf8Bytes_encodeByte]
    simp only [List.cons_append, List.nil_append, decode]
    rw [hexValue?_hexDigit (by omega), hexValue?_hexDigit (by omega)]
    simp [whole]

theorem decode_encodeBytes {reserved : Char → Bool} (percent : reserved '%' = true)
    (bytes rest : Bytes) :
    decode (Text.utf8Bytes (encodeBytes reserved bytes) ++ rest) = bytes ++ decode rest := by
  induction bytes with
  | nil => rfl
  | cons byte bytes ih =>
    rw [encodeBytes, List.flatMap_cons, Text.utf8Bytes_append, List.append_assoc,
      decode_encodeByteUnless percent]
    exact congrArg _ ih

/-- Neither a query nor a fragment begins within an encoded segment. -/
theorem not_endsPath_of_mem_encodeBytes {bytes : Bytes} {c : Char}
    (member : c ∈ encodeBytes inSegment bytes) : (c != '?' && c != '#') = true := by
  have encoded : ∀ code : Fin 256, (encodeByteUnless inSegment (UInt8.ofNat code)).all
      (fun d => d != '?' && d != '#') = true := by
    decide +kernel
  obtain ⟨byte, -, isCharacter⟩ := List.mem_flatMap.1 member
  have bounded : byte.toNat < 256 := byte.toNat_lt
  have checked := encoded ⟨byte.toNat, bounded⟩
  rw [UInt8.ofNat_toNat] at checked
  exact List.all_eq_true.1 checked c isCharacter

end Percent

/-! ## Components -/

namespace Path

theorem pieces_ne_nil (path : Path) : pieces path ≠ [] := by
  fun_cases pieces path with
  | case1 | case2 | case3 | case4 => exact List.cons_ne_nil _ _

theorem pieces_cons_slash (rest : Path) : pieces (slash :: rest) = [] :: pieces rest := by
  simp [pieces]

/-- A name ahead of a path becomes part of its first piece. -/
theorem pieces_append {name tail first : Bytes} {others : List Bytes} (noSlash : slash ∉ name)
    (tail_eq : pieces tail = first :: others) :
    pieces (name ++ tail) = (name ++ first) :: others := by
  induction name with
  | nil => exact tail_eq
  | cons byte name ih =>
    obtain ⟨notSlash, noSlash⟩ := not_or.1 (fun member => noSlash (List.mem_cons.2 member))
    rw [List.cons_append, pieces, if_neg (by simpa using Ne.symm notSlash), ih noSlash]
    rfl

theorem slash_notMem_of_mem_pieces {path piece : Bytes} (member : piece ∈ pieces path) :
    slash ∉ piece := by
  fun_induction pieces path generalizing piece with
  | case1 =>
    obtain rfl := List.mem_singleton.1 member
    exact List.not_mem_nil
  | case2 byte rest isSlash ih =>
    rcases List.mem_cons.1 member with rfl | later
    · exact List.not_mem_nil
    · exact ih later
  | case3 byte rest notSlash noPieces ih => exact absurd noPieces (pieces_ne_nil rest)
  | case4 byte rest notSlash first others pieces_eq ih =>
    rw [pieces_eq] at ih
    rcases List.mem_cons.1 member with rfl | later
    · have different : slash ≠ byte := Ne.symm (by simpa using notSlash)
      simpa [different] using ih List.mem_cons_self
    · exact ih (List.mem_cons_of_mem _ later)

/-- What a name has to be to count as a component. -/
structure IsComponent (name : Bytes) : Prop where
  nonempty : name ≠ []
  notCurrent : name ≠ currentName
  noSlash : slash ∉ name

theorem isComponent_of_mem_components {path name : Bytes} (member : name ∈ components path) :
    IsComponent name := by
  obtain ⟨isPiece, counts⟩ := List.mem_filter.1 member
  simp only [Bool.and_eq_true, Bool.not_eq_true', List.isEmpty_eq_false_iff, bne_iff_ne] at counts
  exact ⟨counts.1, counts.2, slash_notMem_of_mem_pieces isPiece⟩

/-- The absolute path that goes through some names. -/
def ofNames (names : List Bytes) : Path :=
  names.flatMap (slash :: ·)

theorem pieces_ofNames {names : List Bytes} (proper : ∀ name ∈ names, IsComponent name) :
    pieces (ofNames names) = [] :: names := by
  induction names with
  | nil => rfl
  | cons name names ih =>
    obtain ⟨first, others⟩ := List.forall_mem_cons.1 proper
    rw [ofNames, List.flatMap_cons, List.cons_append, pieces_cons_slash]
    rw [← ofNames, pieces_append first.noSlash (ih others), List.append_nil]

theorem components_ofNames {names : List Bytes} (proper : ∀ name ∈ names, IsComponent name) :
    components (ofNames names) = names := by
  rw [components, pieces_ofNames proper, List.filter_cons_of_neg (by simp), List.filter_eq_self]
  intro name member
  have isComponent := proper name member
  simp [isComponent.nonempty, isComponent.notCurrent]

theorem pieces_concat_slash (path : Path) : pieces (path ++ [slash]) = pieces path ++ [[]] := by
  fun_induction pieces path with
  | case1 => rfl
  | case2 byte rest isSlash ih => simp [pieces, isSlash, ih]
  | case3 byte rest notSlash noPieces ih => exact absurd noPieces (pieces_ne_nil rest)
  | case4 byte rest notSlash first others pieces_eq ih =>
    simp [pieces, notSlash, ih, pieces_eq]

theorem components_concat_slash (path : Path) :
    components (path ++ [slash]) = components path := by
  simp [components, pieces_concat_slash]

end Path

/-! ## There and back -/

namespace Uri

theorem components_closeDrive (path : Path) : (closeDrive path).components = path.components := by
  unfold closeDrive
  split
  · split
    · exact Path.components_concat_slash path
    · rfl
  · rfl

theorem decode_segmentsText (names : List Bytes) :
    Percent.decode (Text.utf8Bytes (segmentsText names)) = Path.ofNames names := by
  induction names with
  | nil => rfl
  | cons name names ih =>
    rw [segmentsText, List.flatMap_cons, List.cons_append,
      Text.utf8Bytes_cons_of_ascii (by decide), Percent.decode_cons_of_ne (by decide),
      Text.utf8Bytes_append, Percent.decode_encodeBytes rfl]
    exact congrArg (fun tail => Path.slash :: (name ++ tail)) ih

theorem toFilePath?_of_segments {segments : Text} (fromSlash : segments.head? = some '/')
    (plain : ∀ c ∈ segments, (c != '?' && c != '#') = true) :
    (Uri.mk ("file://".toList ++ segments)).toFilePath? =
      some (closeDrive (Percent.decode segments.utf8Bytes)) := by
  obtain ⟨rest, rfl⟩ := List.head?_eq_some_iff.1 fromSlash
  have afterScheme_eq : (Uri.mk ("file://".toList ++ '/' :: rest)).afterScheme =
      '/' :: '/' :: '/' :: rest := rfl
  have path_eq : (Uri.mk ("file://".toList ++ '/' :: rest)).path = '/' :: rest := by
    rw [path, afterScheme_eq]
    exact List.takeWhile_eq_self_iff.2 plain
  have noHost : (Uri.mk ("file://".toList ++ '/' :: rest)).host = [] := by
    rw [host, authority, afterScheme_eq]
    rfl
  simp only [toFilePath?, path_eq, noHost]
  rfl

/-- The path of the URI of a path: it goes through the same names, but for a slash behind what
looks like a drive. -/
theorem toFilePath?_of_names {file : Path} {uri : Uri} (isUri : ofFilePath? file = some uri)
    (notRoot : file.components ≠ []) :
    uri.toFilePath? = some (closeDrive (Path.ofNames file.components)) := by
  unfold ofFilePath? at isUri
  split at isUri
  next =>
    obtain ⟨name, names, names_eq⟩ := List.exists_cons_of_ne_nil notRoot
    simp only [names_eq, Option.some.injEq] at isUri
    rw [if_neg (by simp [segmentsText])] at isUri
    have plain : ∀ c ∈ segmentsText (name :: names), (c != '?' && c != '#') = true := by
      intro c member
      obtain ⟨segment, -, inSegment⟩ := List.mem_flatMap.1 member
      rcases List.mem_cons.1 inSegment with rfl | encoded
      · decide
      · exact Percent.not_endsPath_of_mem_encodeBytes encoded
    subst isUri
    rw [toFilePath?_of_segments rfl plain, decode_segmentsText, names_eq]
  next => cases isUri

/-- The URI of a path has a path again, with the same components. -/
theorem toFilePath?_of_ofFilePath? {file : Path} {uri : Uri} (isUri : ofFilePath? file = some uri) :
    ∃ path, uri.toFilePath? = some path ∧ path.components = file.components := by
  by_cases atRoot : file.components = []
  · -- The root has no names, but its URI has a slash all the same.
    unfold ofFilePath? at isUri
    split at isUri
    next =>
      simp only [atRoot, Option.some.injEq] at isUri
      subst isUri
      rw [atRoot]
      exact ⟨_, toFilePath?_of_segments rfl (List.forall_mem_singleton.2 rfl), rfl⟩
    next => cases isUri
  · refine ⟨_, toFilePath?_of_names isUri atRoot, ?_⟩
    rw [components_closeDrive,
      Path.components_ofNames fun name member => Path.isComponent_of_mem_components member]

theorem isAbsolute_of_toFilePath? {uri : Uri} {path : Path} (named : uri.toFilePath? = some path) :
    path.isAbsolute = true := by
  unfold toFilePath? at named
  split at named
  next rest path_eq =>
    split at named
    next =>
      obtain rfl := Option.some.inj named
      rw [path_eq, Text.utf8Bytes_cons_of_ascii (by decide), Percent.decode_cons_of_ne (by decide)]
      unfold closeDrive
      split
      · split <;> rfl
      · rfl
    next => cases named
  next => cases named

theorem ofFilePath?_congr {path file : Path} (absolute : path.isAbsolute = true)
    (fileAbsolute : file.isAbsolute = true) (same : path.components = file.components) :
    ofFilePath? path = ofFilePath? file := by
  rw [ofFilePath?, ofFilePath?, if_pos absolute, if_pos fileAbsolute, same]

/-- A URI names the file at a path: its own path goes through the same components. -/
def NamesFile (uri : Uri) (path : Path) : Prop :=
  ∃ named, uri.toFilePath? = some named ∧ named.components = path.components

theorem isAbsolute_of_ofFilePath? {file : Path} {uri : Uri} (isUri : ofFilePath? file = some uri) :
    file.isAbsolute = true := by
  unfold ofFilePath? at isUri
  split at isUri
  next absolute => exact absolute
  next => cases isUri

/-- The URI under which a file is indexed is made from the path of any URI that names it. -/
theorem ofFilePath?_of_namesFile {file path : Path} {uri : Uri}
    (isUri : ofFilePath? file = some uri) (absolute : path.isAbsolute = true)
    (named : uri.NamesFile path) : ofFilePath? path = some uri := by
  obtain ⟨back, back_eq, backComponents⟩ := toFilePath?_of_ofFilePath? isUri
  obtain ⟨other, other_eq, same⟩ := named
  obtain rfl : back = other := Option.some.inj (back_eq.symm.trans other_eq)
  rw [← isUri]
  have fileAbsolute := isAbsolute_of_ofFilePath? isUri
  exact ofFilePath?_congr absolute fileAbsolute (by rw [← same, backComponents])

end Uri

end GotoDefinition
