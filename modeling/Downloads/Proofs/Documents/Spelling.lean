import Downloads.Proofs.Documents.Address

/-!
# Spellings of addresses

Which texts are addresses. A text names a place if nothing but slashes at its ends sets it apart
from the display of the place, so reading a path and displaying it again only takes these slashes
away (`DocumentPath.parse_spellings`). A text names a download if it is the prefix and a decimal
number of 64 bits, with a minus sign or without (`DocumentId.parse_numerals`). A text that names
nothing is refused as it stands.
-/

namespace Downloads

/-! ## Paths -/

namespace DocumentPath

variable {text : String} {p : DocumentPath}

/-- The ids in the path: that of its root, and that of its document. -/
def ids (p : DocumentPath) : List String := p.rootId?.toList ++ p.documentId?.toList

theorem plain_iff : p.Plain ↔ ∀ id ∈ p.ids, PlainPart id := by
  have hfixed : PlainPart "roots" ∧ PlainPart "docs" ∧ PlainPart "contents" := by decide
  cases p <;> simp [Plain, segments, ids, rootId?, documentId?, hfixed]

/-- The text names the place: the ids of the place can stand between slashes, and without the
slashes at its ends the text is the display of the place. -/
structure Spells (text : String) (p : DocumentPath) : Prop where
  ids : ∀ id ∈ p.ids, PlainPart id
  stripped : Text.Stripped (· == '/') text.toList p.display.toList

theorem spells_iff :
    Spells text p ↔ p.Plain ∧ Text.trimBoth (· == '/') text.toList = p.display.toList := by
  rw [plain_iff, Text.trimBoth_eq_iff]
  exact ⟨fun h => ⟨h.ids, h.stripped⟩, fun h => ⟨h.1, h.2⟩⟩

theorem spells_display (h : ∀ id ∈ p.ids, PlainPart id) : Spells p.display p :=
  spells_iff.mpr ⟨plain_iff.mpr h, trimBoth_display (plain_iff.mpr h)⟩

/-! ### Parts of a text -/

theorem ofParts?_eq_some_iff {parts : List String} :
    ofParts? parts = some p ↔ parts = p.segments := by
  constructor
  · intro h
    unfold ofParts? at h
    split at h <;> cases h <;> rfl
  · rintro rfl
    exact p.ofParts?_segments

theorem parse_eq_ok_iff_parts :
    parse text = .ok p ↔
      (∀ part ∈ parts text, part ≠ []) ∧ parts text = p.segments.map String.toList := by
  have hnonempty : (parts text).any List.isEmpty = true ↔ ¬ ∀ part ∈ parts text, part ≠ [] := by
    simp
  have hparts : (parts text).map String.ofList = p.segments ↔
      parts text = p.segments.map String.toList := by
    constructor
    · intro h
      rw [← h, List.map_map]
      exact ((List.map_congr_left fun _ _ => String.toList_ofList).trans (List.map_id _)).symm
    · intro h
      rw [h, List.map_map]
      exact (List.map_congr_left fun _ _ => String.ofList_toList).trans (List.map_id _)
  rw [← hparts, ← ofParts?_eq_some_iff]
  unfold parse
  split
  · rename_i hempty
    exact iff_of_false nofun fun h => hnonempty.mp hempty h.1
  · rename_i hempty
    rw [hnonempty, not_not] at hempty
    split
    · rename_i p' hp
      rw [hp, Except.ok.injEq, Option.some.injEq]
      exact ⟨fun h => ⟨hempty, h⟩, And.right⟩
    · rename_i hp
      rw [hp]
      exact iff_of_false nofun fun h => by cases h.2

theorem error_of_parse {e : DocumentError} (h : parse text = .error e) :
    e = .unsupportedPath text := by
  unfold parse at h
  split at h
  · exact (Except.error.inj h).symm
  · split at h
    · cases h
    · exact (Except.error.inj h).symm

/-- Between slashes, the parts are what is left of the text without the slashes at its ends. -/
theorem intercalate_parts (text : String) :
    List.intercalate ['/'] (parts text) = Text.trimBoth (· == '/') text.toList := by
  rw [parts, Text.splitAt_eq_splitOnP]
  exact List.intercalate_splitOn '/'

/-- A text is read as the place that it names. -/
theorem parse_eq_ok_iff : parse text = .ok p ↔ Spells text p := by
  rw [parse_eq_ok_iff_parts, spells_iff]
  constructor
  · rintro ⟨hnonempty, hparts⟩
    refine ⟨fun part hpart => ?_, by rw [← intercalate_parts, hparts, toList_display]⟩
    have hmem : part.toList ∈ parts text := hparts ▸ List.mem_map_of_mem hpart
    constructor
    · rintro rfl
      exact hnonempty _ hmem rfl
    · intro hslash
      cases Text.not_mem_of_mem_splitAt hmem hslash
  · rintro ⟨hplain, htrim⟩
    -- The parts depend on the trimmed text only, and the display is trimmed.
    have hparts : parts text = parts p.display := by
      rw [parts, htrim, ← trimBoth_display hplain, parts]
    rw [hparts]
    exact parse_eq_ok_iff_parts.mp (parse_display hplain)

/-- **Paths.** A text is read as the place whose ids can stand between slashes and whose display is
the text without the slashes at its ends, and every other text is refused as it stands. So a place
with such ids is what its display names, no two of them have the same display, and reading a text
and displaying the place takes away the slashes at the ends, and nothing more when it is done
again. -/
theorem parse_spellings :
    (∀ text p, parse text = .ok p ↔ Spells text p) ∧
      (∀ text e, parse text = .error e ↔ e = .unsupportedPath text ∧ ∀ p, ¬ Spells text p) ∧
      (∀ p, (∀ id ∈ p.ids, PlainPart id) → parse p.display = .ok p) ∧
      (∀ text text' p p', parse text = .ok p → parse text' = .ok p' →
        p.display = p'.display → p = p') ∧
      ∀ text shown, (parse text).map display = .ok shown →
        Text.Stripped (· == '/') text.toList shown.toList ∧
          (parse shown).map display = .ok shown := by
  have hdisplay : ∀ p, (∀ id ∈ p.ids, PlainPart id) → parse p.display = .ok p :=
    fun p h => parse_eq_ok_iff.mpr (spells_display h)
  refine ⟨fun _ _ => parse_eq_ok_iff, fun text e => ?_, hdisplay, ?_, ?_⟩
  · constructor
    · intro h
      refine ⟨error_of_parse h, fun p hp => ?_⟩
      rw [parse_eq_ok_iff.mpr hp] at h
      cases h
    · rintro ⟨rfl, hnone⟩
      rcases hread : parse text with e | p
      · rw [error_of_parse hread]
      · exact absurd (parse_eq_ok_iff.mp hread) (hnone p)
  · intro text text' p p' hp hp' hsame
    have hread := hdisplay p (parse_eq_ok_iff.mp hp).ids
    rw [hsame, hdisplay p' (parse_eq_ok_iff.mp hp').ids, Except.ok.injEq] at hread
    exact hread.symm
  · intro text shown h
    rcases hread : parse text with e | p <;> rw [hread] at h <;> cases h
    have hspells := parse_eq_ok_iff.mp hread
    refine ⟨hspells.stripped, ?_⟩
    rw [hdisplay p hspells.ids]
    rfl

/-- Ids that are words of the grammar are ids like any other. -/
theorem parse_spellings_grammarWords :
    Spells "//roots/docs/docs/contents/contents/" (.contents "docs" "contents") ∧
      parse "roots/docs/docs/contents/contents" = .ok (.contents "docs" "contents") ∧
      Text.Stripped (· == '/') "//roots/docs/docs/contents/contents/".toList
        "roots/docs/docs/contents/contents".toList ∧
      parse "roots//docs/id:1" = .error (.unsupportedPath "roots//docs/id:1") ∧
      ∀ p, ¬ Spells "roots//docs/id:1" p := by
  obtain ⟨hread, hrefused, hdisplay, -, hnormal⟩ := parse_spellings
  have hparse : parse "//roots/docs/docs/contents/contents/" =
      .ok (.contents "docs" "contents") := by decide +kernel
  have herror : parse "roots//docs/id:1" = .error (.unsupportedPath "roots//docs/id:1") := by
    decide +kernel
  have hspells := (hread _ _).mp hparse
  have hshown : (parse "//roots/docs/docs/contents/contents/").map display =
      .ok "roots/docs/docs/contents/contents" := by
    rw [hparse]
    rfl
  exact ⟨hspells, hdisplay (.contents "docs" "contents") hspells.ids, (hnormal _ _ hshown).1,
    herror, ((hrefused _ _).mp herror).2⟩

end DocumentPath

/-! ## Ids -/

namespace DocumentId

variable {text : String} {s : List Char} {id : Int}

/-- The text is digits, at least one, after a minus sign or none, and denotes the integer. -/
inductive IsNumber : List Char → Int → Prop
  | plain {ds : List Char} (hne : ds ≠ []) (hdigits : ∀ c ∈ ds, c.isDigit = true) :
      IsNumber ds (Text.placeValue ds)
  | minus {ds : List Char} (hne : ds ≠ []) (hdigits : ∀ c ∈ ds, c.isDigit = true) :
      IsNumber ('-' :: ds) (-Text.placeValue ds)

/-- The text is the prefix of ids and a number. -/
def Spells (text : String) (id : Int) : Prop :=
  ∃ s, text.toList = "id:".toList ++ s ∧ IsNumber s id

theorem isNumeral_placeValue {ds : List Char} (hne : ds ≠ [])
    (hdigits : ∀ c ∈ ds, c.isDigit = true) : Text.IsNumeral ds (Text.placeValue ds) :=
  ⟨hne, hdigits, Text.digitsValue_eq_placeValue ds⟩

theorem isNumber_iff :
    IsNumber s id ↔
      Text.Denotes s id ∧ (unsigned s).isEmpty = false ∧ (unsigned s).all Char.isDigit = true := by
  constructor
  · intro h
    cases h with
    | plain hne hdigits =>
      have hn := isNumeral_placeValue hne hdigits
      rw [unsigned_of_isNumeral hn]
      exact ⟨.plain hn, List.isEmpty_eq_false_iff.mpr hne, List.all_eq_true.mpr hdigits⟩
    | @minus ds hne hdigits =>
      have hn := isNumeral_placeValue hne hdigits
      exact ⟨.minus hn, List.isEmpty_eq_false_iff.mpr hne, List.all_eq_true.mpr hdigits⟩
  · rintro ⟨hdenotes, hne, hdigits⟩
    cases hdenotes with
    | plain hn =>
      obtain rfl := hn.value
      rw [Text.digitsValue_eq_placeValue]
      exact .plain hn.nonempty hn.digits
    | minus hn =>
      obtain rfl := hn.value
      rw [Text.digitsValue_eq_placeValue]
      exact .minus hn.nonempty hn.digits
    -- The reader of integers takes a plus sign, which is no digit.
    | plus hn => cases List.all_eq_true.mp hdigits '+' List.mem_cons_self

theorem parseNumber?_eq_some_iff :
    parseNumber? s = some id ↔ IsNumber s id ∧ minInt64 ≤ id ∧ id ≤ maxInt64 := by
  have hread : (Text.parseInteger 64 s).toOption = some id ↔ Text.parseInteger 64 s = .ok id := by
    cases Text.parseInteger 64 s <;> simp [Except.toOption]
  rw [isNumber_iff]
  unfold parseNumber?
  split
  · rename_i hshape
    rw [hread, Text.parseInteger_int64_eq_ok_iff]
    simp_all
  · rename_i hshape
    refine iff_of_false nofun fun h => hshape ?_
    simp [h.1.2]

theorem error_of_parse {e : DocumentError} (h : parse text = .error e) :
    e = .invalidDocumentId text := by
  unfold parse at h
  split at h
  · split at h
    · cases h
    · exact (Except.error.inj h).symm
  · exact (Except.error.inj h).symm

/-- A text is read as the number after the prefix, if there are both. -/
theorem parse_eq_ok_iff :
    parse text = .ok id ↔ ∃ s, text.toList = "id:".toList ++ s ∧ parseNumber? s = some id := by
  have hstart : "id:".toList = ['i', 'd', ':'] := rfl
  rw [hstart]
  unfold parse
  split
  · rename_i s htext
    rw [htext]
    rcases hnumber : parseNumber? s with _ | id' <;> simp [hnumber]
  · rename_i hno
    refine iff_of_false nofun ?_
    rintro ⟨s, htext, -⟩
    exact hno s htext

theorem parse_eq_ok_iff_spells :
    parse text = .ok id ↔ Spells text id ∧ minInt64 ≤ id ∧ id ≤ maxInt64 := by
  simp only [parse_eq_ok_iff, parseNumber?_eq_some_iff, Spells]
  constructor
  · rintro ⟨s, htext, hnumber, hrange⟩
    exact ⟨⟨s, htext, hnumber⟩, hrange⟩
  · rintro ⟨⟨s, htext, hnumber⟩, hrange⟩
    exact ⟨s, htext, hnumber, hrange⟩

/-- **Ids of documents.** The id of a download leads back to its number, if that has 64 bits, and
different numbers have different ids. A text is read as the number that it spells, if that has 64
bits, and every other text is refused as it stands. -/
theorem parse_numerals :
    (∀ id, minInt64 ≤ id → id ≤ maxInt64 → parse (ofRecordId id) = .ok id) ∧
      Function.Injective ofRecordId ∧
      (∀ text id, parse text = .ok id ↔ Spells text id ∧ minInt64 ≤ id ∧ id ≤ maxInt64) ∧
      ∀ text e, parse text = .error e ↔
        e = .invalidDocumentId text ∧
          ∀ id, Spells text id → ¬ (minInt64 ≤ id ∧ id ≤ maxInt64) := by
  refine ⟨fun _ => parse_ofRecordId, ofRecordId_injective, fun _ _ => parse_eq_ok_iff_spells, ?_⟩
  intro text e
  constructor
  · intro h
    refine ⟨error_of_parse h, fun id hid hrange => ?_⟩
    rw [parse_eq_ok_iff_spells.mpr ⟨hid, hrange⟩] at h
    cases h
  · rintro ⟨rfl, hnone⟩
    rcases hread : parse text with e | id
    · rw [error_of_parse hread]
    · obtain ⟨hid, hrange⟩ := parse_eq_ok_iff_spells.mp hread
      exact absurd hrange (hnone id hid)

/-- The least number is an id, one less is none, and a sign may stand before zeros. -/
theorem parse_numerals_leastId :
    parse (ofRecordId minInt64) = .ok minInt64 ∧
      Spells "id:-9223372036854775809" (minInt64 - 1) ∧
      parse "id:-9223372036854775809" = .error (.invalidDocumentId "id:-9223372036854775809") ∧
      Spells "id:-007" (-7) ∧
      ∀ id, ¬ (Spells "id:+7" id ∧ minInt64 ≤ id ∧ id ≤ maxInt64) := by
  obtain ⟨hback, -, hread, hrefused⟩ := parse_numerals
  have hbelow : parse "id:-9223372036854775809" =
      .error (.invalidDocumentId "id:-9223372036854775809") := by decide +kernel
  have hzeros : parse "id:-007" = .ok (-7) := by decide +kernel
  have hplus : parse "id:+7" = .error (.invalidDocumentId "id:+7") := by decide +kernel
  refine ⟨hback minInt64 (Int.le_refl _) (by decide), ?_, hbelow, ((hread _ _).mp hzeros).1, ?_⟩
  · refine ⟨"-9223372036854775809".toList, rfl, ?_⟩
    have hvalue : minInt64 - 1 = -Text.placeValue "9223372036854775809".toList := by decide +kernel
    rw [hvalue]
    exact .minus (by decide) (List.all_eq_true.mp (by decide +kernel))
  · rintro id ⟨hid, hrange⟩
    exact ((hrefused _ _).mp hplus).2 id hid hrange

end DocumentId

end Downloads
