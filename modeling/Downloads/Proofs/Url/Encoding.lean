import Downloads.Url.Basic
import Mathlib.Data.List.Basic
import Mathlib.Tactic.SplitIfs

/-!
# Spelling in paths

A path holds visible characters of ASCII only. All others are spelled by the bytes of their UTF-8
encoding, two hexadecimal digits after a percent sign for each byte. The path is encoded byte by
byte; here it is said character by character, and both are the same (`encodeSegment_eq_spell`).
-/

namespace Downloads.Url

/-! ## Spelling -/

/-- A character that stands for itself in a path. -/
def PathChar (c : Char) : Prop := 0x20 < c.toNat ∧ c.toNat < 0x7F ∧ c ∉ encodedMarks

instance : DecidablePred PathChar := fun c => by unfold PathChar; infer_instance

/-- A byte by its two hexadecimal digits. -/
def hexByte (b : UInt8) : List Char :=
  ['%', upperHexDigit (b.toNat / 16), upperHexDigit (b.toNat % 16)]

/-- A character as it is spelled in a path: by itself, or by the bytes of its encoding. -/
def spellChar (c : Char) : List Char :=
  if PathChar c then [c] else (String.utf8EncodeChar c).flatMap hexByte

/-- A piece of a text as it is spelled in a path. -/
def spell (piece : List Char) : List Char := piece.flatMap spellChar

theorem pathChar_of_isAlpha {c : Char} (h : c.isAlpha = true) : PathChar c ∧ c ≠ '/' := by
  have hrange : 65 ≤ c.toNat ∧ c.toNat ≤ 90 ∨ 97 ≤ c.toNat ∧ c.toNat ≤ 122 := by
    rcases Bool.or_eq_true_iff.mp h with hupper | hlower
    · exact .inl (of_decide_eq_true hupper)
    · obtain ⟨hleast, hmost⟩ := Bool.and_eq_true_iff.mp hlower
      exact .inr ⟨of_decide_eq_true hleast, of_decide_eq_true hmost⟩
  have hmarks : ∀ m ∈ encodedMarks, m.isAlpha = false := by simp [encodedMarks]
  refine ⟨⟨by omega, by omega, fun hmark => ?_⟩, ?_⟩
  · cases h.symm.trans (hmarks c hmark)
  · rintro rfl
    cases h

theorem pathChar_upperHexDigit {n : Nat} (h : n < 16) :
    PathChar (upperHexDigit n) ∧ upperHexDigit n ≠ '/' := by
  have key : ∀ n, n < 16 → PathChar (upperHexDigit n) ∧ upperHexDigit n ≠ '/' := by decide
  exact key n h

theorem pathChar_of_mem_hexByte {b : UInt8} {c : Char} (h : c ∈ hexByte b) :
    PathChar c ∧ c ≠ '/' := by
  have hb : b.toNat < 256 := b.toNat_lt
  simp only [hexByte, List.mem_cons, List.not_mem_nil, or_false] at h
  rcases h with rfl | rfl | rfl
  · decide
  · exact pathChar_upperHexDigit (by omega)
  · exact pathChar_upperHexDigit (by omega)

/-- What a character is spelled by can stand in a path, and is no slash unless it is the slash. -/
theorem pathChar_of_mem_spellChar {c d : Char} (h : d ∈ spellChar c) :
    PathChar d ∧ (d = '/' → c = '/') := by
  unfold spellChar at h
  split at h
  · rename_i hc
    obtain rfl := List.mem_singleton.mp h
    exact ⟨hc, id⟩
  · obtain ⟨b, -, hd⟩ := List.mem_flatMap.mp h
    obtain ⟨hpath, hslash⟩ := pathChar_of_mem_hexByte hd
    exact ⟨hpath, fun heq => absurd heq hslash⟩

/-- A character stands for itself, or its spelling starts with a percent sign. -/
theorem spellChar_cases (c : Char) :
    PathChar c ∧ spellChar c = [c] ∨ ∃ rest, ¬PathChar c ∧ spellChar c = '%' :: rest := by
  by_cases hc : PathChar c
  · exact .inl ⟨hc, if_pos hc⟩
  · right
    rcases hbytes : String.utf8EncodeChar c with _ | ⟨b, bytes⟩
    · exact absurd hbytes String.utf8EncodeChar_ne_nil
    · exact ⟨_, hc, by rw [spellChar, if_neg hc, hbytes]; rfl⟩

/-! ## Bytes -/

/-- What the loop over the bytes has collected are those before its place, the last one first. -/
theorem toList_loop {bytes : ByteArray} {i : Nat} {done : List UInt8}
    (hdone : done.reverse = bytes.data.toList.take i) :
    ByteArray.toList.loop bytes i done = bytes.data.toList := by
  fun_induction ByteArray.toList.loop bytes i done with
  | case1 i done hi ih =>
    have hbyte : bytes.get! i = bytes.data.toList[i] := getElem!_pos bytes.data i hi
    apply ih
    rw [List.reverse_cons, hdone, hbyte, List.take_append_getElem]
  | case2 i done hi =>
    rw [hdone]
    exact List.take_of_length_le (Nat.le_of_not_lt hi)

/-- The bytes of a text are those of its characters. -/
theorem toList_toUTF8 (s : List Char) :
    (String.ofList s).toUTF8.toList = s.flatMap String.utf8EncodeChar := by
  rw [ByteArray.toList, toList_loop rfl, String.toUTF8_eq_toByteArray, String.toByteArray_ofList]
  exact List.toList_data_toByteArray

/-- The bytes of a character beyond ASCII are beyond ASCII. -/
theorem le_of_mem_utf8EncodeChar {c : Char} (hc : 0x80 ≤ c.toNat) {b : UInt8}
    (h : b ∈ String.utf8EncodeChar c) : 0x80 ≤ b.toNat := by
  have hascii : ¬c.val.toNat ≤ 127 := Nat.not_le.mpr hc
  simp only [String.utf8EncodeChar, hascii, if_false] at h
  split_ifs at h
  all_goals
    simp only [List.mem_cons, List.not_mem_nil, or_false] at h
    rcases h with rfl | rfl | rfl | rfl <;> rw [UInt8.toNat_ofNat'] <;> omega

theorem utf8EncodeChar_of_lt {c : Char} (hc : c.toNat < 0x80) :
    String.utf8EncodeChar c = [UInt8.ofNat c.toNat] := by
  have hascii : c.val.toNat ≤ 127 := Nat.le_of_lt_succ hc
  simp only [String.utf8EncodeChar, hascii, if_true]
  rfl

/-- Bytes and characters of ASCII are sorted out alike. -/
theorem encodePathByte_ofNat {c : Char} (hc : c.toNat < 0x80) :
    encodePathByte (UInt8.ofNat c.toNat) =
      if PathChar c then [c] else hexByte (UInt8.ofNat c.toNat) := by
  have hvalue : (UInt8.ofNat c.toNat).toNat = c.toNat := by
    rw [UInt8.toNat_ofNat']
    omega
  have hpath : isPathByte (UInt8.ofNat c.toNat) = true ↔ PathChar c := by
    rw [isPathByte, hvalue, Char.ofNat_toNat]
    simp [PathChar, and_assoc]
  simp only [encodePathByte, hexByte, hpath, hvalue, Char.ofNat_toNat]

theorem encodePathByte_of_le {b : UInt8} (h : 0x80 ≤ b.toNat) : encodePathByte b = hexByte b := by
  have hpath : ¬isPathByte b = true := by
    simp only [isPathByte, Bool.and_eq_true, decide_eq_true_eq]
    omega
  exact if_neg hpath

/-- Encoding a text byte by byte spells it character by character. -/
theorem encodeSegment_eq_spell (s : List Char) : encodeSegment s = spell s := by
  have hchar : ∀ c, (String.utf8EncodeChar c).flatMap encodePathByte = spellChar c := by
    intro c
    rcases Nat.lt_or_ge c.toNat 0x80 with hc | hc
    · rw [spellChar, utf8EncodeChar_of_lt hc, List.flatMap_singleton, List.flatMap_singleton,
        encodePathByte_ofNat hc]
    · have hbeyond : ¬PathChar c := fun h => by
        have := h.2.1
        omega
      rw [spellChar, if_neg hbeyond]
      exact List.flatMap_congr fun b hb => encodePathByte_of_le (le_of_mem_utf8EncodeChar hc hb)
  rw [encodeSegment, toList_toUTF8, List.flatMap_assoc, spell]
  exact List.flatMap_congr fun c _ => hchar c

example : encodeSegment "a é?".toList = "a%20%C3%A9%3F".toList := by decide +kernel

/-! ## Pieces -/

theorem pathChar_of_mem_spell {piece : List Char} {d : Char} (h : d ∈ spell piece) :
    PathChar d ∧ (d = '/' → '/' ∈ piece) := by
  obtain ⟨c, hc, hd⟩ := List.mem_flatMap.mp h
  obtain ⟨hpath, hslash⟩ := pathChar_of_mem_spellChar hd
  exact ⟨hpath, fun heq => hslash heq ▸ hc⟩

theorem spell_eq_nil {piece : List Char} (h : spell piece = []) : piece = [] := by
  rcases piece with _ | ⟨a, piece⟩
  · rfl
  rw [spell, List.flatMap_cons, List.append_eq_nil_iff] at h
  rcases spellChar_cases a with ⟨-, ha⟩ | ⟨_, -, ha⟩
  · cases ha.symm.trans h.1
  · cases ha.symm.trans h.1

/-- A spelling that starts with a character other than the percent sign is one of a piece that
starts with this character. -/
theorem spell_eq_cons {piece rest : List Char} {c : Char} (h : spell piece = c :: rest)
    (hc : c ≠ '%') : ∃ piece', piece = c :: piece' ∧ spell piece' = rest := by
  rcases piece with _ | ⟨a, piece'⟩
  · cases h
  have hcons : spell (a :: piece') = spellChar a ++ spell piece' := List.flatMap_cons
  rw [hcons] at h
  rcases spellChar_cases a with ⟨-, ha⟩ | ⟨_, _, ha⟩
  · rw [ha, List.singleton_append, List.cons.injEq] at h
    exact ⟨piece', by rw [h.1], h.2⟩
  · rw [ha, List.cons_append, List.cons.injEq] at h
    exact absurd h.1.symm hc

end Downloads.Url
