import Downloads.Documents.Id
import Downloads.Documents.Path
import Downloads.Proofs.Text.Reading
import Downloads.Saturating

/-!
# Addresses of documents

What is written as an address is read back. A place whose ids can stand between slashes is the place
that its display names (`DocumentPath.parse_display`), and the document id of a download leads back
to the download if its number has 64 bits (`DocumentId.parse_ofRecordId`).
-/

namespace Downloads

/-! ## Ids -/

namespace DocumentId

/-- Digits have no sign. -/
theorem unsigned_of_isNumeral {ds : List Char} {n : Nat} (h : Text.IsNumeral ds n) :
    unsigned ds = ds := by
  unfold unsigned
  split
  · cases h.digits '-' List.mem_cons_self
  · rfl

/-- The document id of a download names the download. -/
theorem parse_ofRecordId {id : Int} (hmin : minInt64 ≤ id) (hmax : id ≤ maxInt64) :
    parse (ofRecordId id) = .ok id := by
  have hread : Text.parseInteger 64 (Text.decimalChars id) = .ok id := by
    refine Text.parseInteger_decimalChars ?_ ?_
    · exact hmin
    · exact Int.lt_add_one_of_le hmax
  have hdigits : unsigned (Text.decimalChars id) = Text.digits id.natAbs := by
    unfold Text.decimalChars
    split
    · rfl
    · exact unsigned_of_isNumeral (Text.isNumeral_digits id.natAbs)
  have hall : (Text.digits id.natAbs).all Char.isDigit = true :=
    List.all_eq_true.mpr (Text.isDigit_of_mem_digits _)
  obtain ⟨c, cs, hcons, -⟩ := Text.exists_digits_eq_cons id.natAbs
  have hnumber : parseNumber? (Text.decimalChars id) = some id := by
    rw [parseNumber?, hdigits, hall, hread, hcons]
    rfl
  simp only [parse, ofRecordId, String.toList_ofList, hnumber]

theorem ofRecordId_injective : Function.Injective ofRecordId := by
  intro id id' h
  rw [ofRecordId, ofRecordId, String.ofList_inj, List.cons.injEq, List.cons.injEq,
    List.cons.injEq] at h
  exact Text.decimalChars_injective h.2.2.2

end DocumentId

/-! ## Paths -/

/-- A text that can stand between slashes. -/
def PlainPart (part : String) : Prop := part ≠ "" ∧ '/' ∉ part.toList

instance (part : String) : Decidable (PlainPart part) := instDecidableAnd

theorem DocumentId.plainPart_ofRecordId (id : Int) : PlainPart (ofRecordId id) := by
  have hchars : (ofRecordId id).toList = 'i' :: 'd' :: ':' :: Text.decimalChars id :=
    String.toList_ofList
  have hdigits : '/' ∉ Text.digits id.natAbs := by
    intro h
    have hslash := Text.isDigit_of_mem_digits _ _ h
    cases hslash
  constructor
  · intro h
    rw [h] at hchars
    cases hchars
  · rw [hchars, Text.decimalChars]
    split <;> simpa using hdigits

namespace DocumentPath

/-- The parts of the path, from the top down. -/
def segments : DocumentPath → List String
  | .roots => ["roots"]
  | .root r => ["roots", r]
  | .document r d => ["roots", r, "docs", d]
  | .contents r d => ["roots", r, "docs", d, "contents"]

/-- The ids of the path can stand between slashes. -/
def Plain (p : DocumentPath) : Prop := ∀ part ∈ p.segments, PlainPart part

variable {p : DocumentPath} {r d : String}

theorem plain_document (hr : PlainPart r) (hd : PlainPart d) : (document r d).Plain := by
  have hfixed : PlainPart "roots" ∧ PlainPart "docs" := by decide
  simp [Plain, segments, hfixed, hr, hd]

theorem plain_contents (hr : PlainPart r) (hd : PlainPart d) : (contents r d).Plain := by
  have hfixed : PlainPart "roots" ∧ PlainPart "docs" ∧ PlainPart "contents" := by decide
  simp [Plain, segments, hfixed, hr, hd]

theorem ofParts?_segments (p : DocumentPath) : ofParts? p.segments = some p := by
  cases p <;> rfl

theorem toList_display (p : DocumentPath) :
    p.display.toList = List.intercalate ['/'] (p.segments.map String.toList) := by
  cases p <;> simp [display, segments, List.intercalate, String.toList_append]

/-- A display begins and ends with parts, not with slashes. -/
theorem trimBoth_display (h : p.Plain) :
    Text.trimBoth (· == '/') p.display.toList = p.display.toList := by
  have hlast : ∀ (above : List Char) {part : String}, part ∈ p.segments →
      ∀ c ∈ (above ++ part.toList).getLast?, (c == '/') = false := by
    intro above part hpart c hc
    obtain ⟨hne, hslash⟩ := h part hpart
    have hnil : part.toList ≠ [] := fun hnil => hne (String.toList_eq_nil_iff.mp hnil)
    rw [List.getLast?_append_of_ne_nil _ hnil] at hc
    exact beq_false_of_ne fun hc' => hslash (hc' ▸ List.mem_of_getLast? hc)
  cases p with
  | roots => exact Text.trimBoth_of_ends (by simp [display]) (by simp [display])
  | contents r d =>
    refine Text.trimBoth_of_ends ?_ ?_
    · simp [display, String.toList_append]
    · have hend : "/contents".toList = ['/'] ++ "contents".toList := rfl
      rw [display, String.toList_append, hend, ← List.append_assoc]
      exact hlast _ (by simp [segments])
  | root r | document r d =>
    refine Text.trimBoth_of_ends ?_ ?_
    · simp [display, String.toList_append]
    · rw [display, String.toList_append]
      exact hlast _ (by simp [segments])

theorem parts_display (h : p.Plain) : parts p.display = p.segments.map String.toList := by
  have hsplit : ∀ s, Text.splitAt (· == '/') s = s.splitOn '/' := Text.splitAt_eq_splitOnP _
  rw [parts, trimBoth_display h, hsplit, toList_display]
  refine List.splitOn_intercalate '/' ?_ ?_
  · intro part hpart
    obtain ⟨text, htext, rfl⟩ := List.mem_map.mp hpart
    exact (h text htext).2
  · cases p <;> simp [segments]

/-- The display of a place names the place. -/
theorem parse_display (h : p.Plain) : parse p.display = .ok p := by
  have hnonempty : (p.segments.map String.toList).any List.isEmpty = false := by
    rw [List.any_map, List.any_eq_false]
    intro part hpart
    have hnil : part.toList ≠ [] := fun hnil => (h part hpart).1 (String.toList_eq_nil_iff.mp hnil)
    simpa using hnil
  have htexts : (p.segments.map String.toList).map String.ofList = p.segments := by
    rw [List.map_map]
    exact (List.map_congr_left fun part _ => String.ofList_toList).trans (List.map_id _)
  rw [parse, parts_display h, hnonempty, htexts, ofParts?_segments]
  rfl

end DocumentPath

end Downloads
