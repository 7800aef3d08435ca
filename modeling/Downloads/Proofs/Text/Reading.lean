import Downloads.Saturating
import Downloads.Text.Blank
import Downloads.Text.Integer
import Downloads.Text.Split
import Mathlib.Data.List.Basic
import Mathlib.Data.List.TakeWhile
import Mathlib.Data.Nat.Digits.Defs

/-!
# Reading texts

What cutting, trimming and reading integers make of a text, said by the text itself: a part stands
before the first separator (`Text.splitOnce_eq_some_iff`), trimming leaves what stands between the
ends (`Text.trimBoth_eq_iff`), and an integer is read if and only if the text is a sign and digits
that denote it (`Text.parseInteger_eq_ok_iff`).
-/

namespace Downloads.Text

/-! ## Cutting -/

theorem splitAt_eq_splitOnP (p : Char → Bool) (s : List Char) : splitAt p s = s.splitOnP p := by
  induction s with
  | nil => rfl
  | cons c s ih =>
    rw [splitAt, List.splitOnP_cons_eq_if_modifyHead, ih]
    rcases hs : s.splitOnP p with _ | ⟨part, parts⟩
    · exact absurd (ih.trans hs) (splitAt_ne_nil p s)
    · rfl

/-- The first part starts the text, and the others stand further on in it. -/
theorem exists_splitAt_eq_cons (p : Char → Bool) (s : List Char) :
    ∃ first rest, splitAt p s = first :: rest ∧ first <+: s ∧ ∀ part ∈ rest, part <:+: s := by
  induction s with
  | nil => exact ⟨[], [], rfl, List.nil_prefix, nofun⟩
  | cons c s ih =>
    obtain ⟨first, rest, hs, hfirst, hrest⟩ := ih
    have hlater : ∀ part, part <:+: s → part <:+: c :: s := fun part hpart =>
      hpart.trans (List.suffix_cons c s).isInfix
    by_cases hc : p c = true
    · refine ⟨[], first :: rest, by rw [splitAt, if_pos hc, hs], List.nil_prefix, ?_⟩
      intro part hpart
      rcases List.mem_cons.mp hpart with rfl | hpart
      · exact hlater part hfirst.isInfix
      · exact hlater part (hrest part hpart)
    · exact ⟨c :: first, rest, by rw [splitAt, if_neg hc, hs], (List.prefix_cons_inj c).mpr hfirst,
        fun part hpart => hlater part (hrest part hpart)⟩

theorem infix_of_mem_splitAt {p : Char → Bool} {s part : List Char} (h : part ∈ splitAt p s) :
    part <:+: s := by
  obtain ⟨first, rest, hs, hfirst, hrest⟩ := exists_splitAt_eq_cons p s
  rcases List.mem_cons.mp (hs ▸ h) with rfl | h
  · exact hfirst.isInfix
  · exact hrest part h

/-- A text is cut at the first of its separators. -/
theorem splitOnce_eq_some_iff {c : Char} {s left right : List Char} :
    splitOnce c s = some (left, right) ↔ s = left ++ c :: right ∧ c ∉ left := by
  constructor
  · intro h
    have hhead := List.head?_dropWhile_not (· != c) s
    unfold splitOnce at h
    split at h
    · cases h
    rename_i x rest hdrop
    rw [Option.some.injEq, Prod.mk.injEq] at h
    obtain ⟨rfl, rfl⟩ := h
    obtain rfl : x = c := by simpa [hdrop] using hhead
    constructor
    · rw [← hdrop, List.takeWhile_append_dropWhile]
    · intro hmem
      simpa using List.mem_takeWhile_imp hmem
  · rintro ⟨rfl, hc⟩
    have hall : ∀ a ∈ left, (a != c) = true := fun a ha => bne_iff_ne.mpr fun hac => hc (hac ▸ ha)
    rw [splitOnce, List.dropWhile_append_of_pos hall, List.takeWhile_append_of_pos hall]
    simp

/-! ## Trimming -/

/-- Nothing is cut off a text whose ends stay. -/
theorem trimBoth_of_ends {p : Char → Bool} {s : List Char} (hfirst : ∀ c ∈ s.head?, p c = false)
    (hlast : ∀ c ∈ s.getLast?, p c = false) : trimBoth p s = s := by
  have hdrop : ∀ s : List Char, (∀ c ∈ s.head?, p c = false) → s.dropWhile p = s := by
    rintro (_ | ⟨c, s⟩) h
    · rfl
    · exact List.dropWhile_cons_of_neg (by simp [h c rfl])
  rw [← List.head?_reverse] at hlast
  rw [trimBoth, hdrop s hfirst, hdrop _ hlast, List.reverse_reverse]

/-- What is cut off at the ends does not matter. -/
theorem trimBoth_append {p : Char → Bool} {before after : List Char} (s : List Char)
    (hbefore : ∀ c ∈ before, p c = true) (hafter : ∀ c ∈ after, p c = true) :
    trimBoth p (before ++ s ++ after) = trimBoth p s := by
  have hdrop : ∀ s, (s ++ after).reverse.dropWhile p = s.reverse.dropWhile p := by
    intro s
    rw [List.reverse_append, List.dropWhile_append_of_pos (by simpa using hafter)]
  rw [trimBoth, List.append_assoc, List.dropWhile_append_of_pos hbefore, List.dropWhile_append]
  split
  · rename_i hempty
    rw [List.isEmpty_iff] at hempty
    have hnil : after.dropWhile p = [] := List.dropWhile_eq_nil_iff.mpr hafter
    rw [hnil, trimBoth, hempty]
  · rw [hdrop, trimBoth]

theorem mem_of_mem_trimBoth {p : Char → Bool} {s : List Char} {c : Char} (h : c ∈ trimBoth p s) :
    c ∈ s := by
  have hinner := (List.dropWhile_sublist p).mem (List.mem_reverse.mp h)
  exact (List.dropWhile_sublist p).mem (List.mem_reverse.mp hinner)

/-- The text without all that satisfies `p` at its ends. -/
structure Stripped (p : Char → Bool) (s t : List Char) : Prop where
  around : ∃ before after, (∀ c ∈ before, p c = true) ∧ (∀ c ∈ after, p c = true) ∧
    s = before ++ t ++ after
  first : ∀ c ∈ t.head?, p c = false
  last : ∀ c ∈ t.getLast?, p c = false

theorem stripped_trimBoth (p : Char → Bool) (s : List Char) : Stripped p s (trimBoth p s) := by
  have hhead : ∀ t : List Char, ∀ c ∈ (t.dropWhile p).head?, p c = false := by
    intro t c hc
    have hnot := List.head?_dropWhile_not p t
    rw [Option.mem_def.mp hc] at hnot
    exact hnot
  constructor
  · refine ⟨s.takeWhile p, ((s.dropWhile p).reverse.takeWhile p).reverse,
      fun c => List.mem_takeWhile_imp,
      fun c hc => List.mem_takeWhile_imp (List.mem_reverse.mp hc), ?_⟩
    rw [trimBoth, List.append_assoc, ← List.reverse_append, List.takeWhile_append_dropWhile,
      List.reverse_reverse, List.takeWhile_append_dropWhile]
  · intro c hc
    rw [trimBoth, List.head?_reverse] at hc
    obtain ⟨cut, hcut⟩ := List.dropWhile_suffix p (l := (s.dropWhile p).reverse)
    have hlast : (s.dropWhile p).reverse.getLast? = some c := by
      rw [← hcut, List.getLast?_append, Option.mem_def.mp hc, Option.some_or]
    exact hhead s c (by rw [← List.getLast?_reverse, hlast]; rfl)
  · intro c hc
    rw [trimBoth, List.getLast?_reverse] at hc
    exact hhead _ c hc

/-- Trimming gives the one text that is left between the ends. -/
theorem trimBoth_eq_iff {p : Char → Bool} {s t : List Char} :
    trimBoth p s = t ↔ Stripped p s t := by
  constructor
  · rintro rfl
    exact stripped_trimBoth p s
  · rintro ⟨⟨before, after, hbefore, hafter, rfl⟩, hfirst, hlast⟩
    rw [trimBoth_append t hbefore hafter, trimBoth_of_ends hfirst hlast]

/-- What was trimmed is not trimmed any further. -/
theorem trimBoth_trimBoth (p : Char → Bool) (s : List Char) :
    trimBoth p (trimBoth p s) = trimBoth p s :=
  trimBoth_of_ends (stripped_trimBoth p s).first (stripped_trimBoth p s).last

theorem trim_trim (s : String) : trim (trim s) = trim s := by
  rw [trim, trim, String.toList_ofList, trimBoth_trimBoth]

/-- Nothing is cut off a text without blanks. -/
theorem trim_of_not_blank {s : String} (h : ∀ c ∈ s.toList, isBlank c = false) : trim s = s := by
  rw [trim, trimBoth_of_ends (fun c hc => h c (List.mem_of_mem_head? hc))
    (fun c hc => h c (List.mem_of_mem_getLast? hc)), String.ofList_toList]

theorem isBlank_of_visible {c : Char} (hlow : 0x20 < c.toNat) (hhigh : c.toNat < 0x7F) :
    isBlank c = false := by
  simp only [isBlank, Bool.or_eq_false_iff, Bool.and_eq_false_iff, decide_eq_false_iff_not,
    beq_eq_false_iff_ne]
  omega

theorem toNat_of_isDigit {c : Char} (h : c.isDigit = true) : 48 ≤ c.toNat ∧ c.toNat ≤ 57 := by
  simpa [Char.isDigit, UInt32.le_iff_toNat_le] using h

theorem isBlank_of_isDigit {c : Char} (h : c.isDigit = true) : isBlank c = false := by
  have hrange := toNat_of_isDigit h
  exact isBlank_of_visible (by omega) (by omega)

/-! ## Integers -/

/-- The text is digits, at least one, that denote the number. -/
structure IsNumeral (ds : List Char) (n : Nat) : Prop where
  nonempty : ds ≠ []
  digits : ∀ c ∈ ds, c.isDigit = true
  value : digitsValue ds = n

/-- The text denotes the integer by digits after a sign, or after none. -/
inductive Denotes : List Char → Int → Prop
  | plain {ds : List Char} {n : Nat} (h : IsNumeral ds n) : Denotes ds n
  | plus {ds : List Char} {n : Nat} (h : IsNumeral ds n) : Denotes ('+' :: ds) n
  | minus {ds : List Char} {n : Nat} (h : IsNumeral ds n) : Denotes ('-' :: ds) (-n)

/-- The number that digits denote by their places, the last one for ones. -/
def placeValue (ds : List Char) : Nat := Nat.ofDigits 10 (ds.reverse.map digitValue)

theorem digitsValue_eq_placeValue (ds : List Char) : digitsValue ds = placeValue ds := by
  rw [placeValue, Nat.ofDigits_eq_foldr, List.foldr_map, List.foldr_reverse, digitsValue]
  congr 1
  funext n c
  exact Nat.add_comm _ _

theorem Denotes.mem {s : List Char} {i : Int} (h : Denotes s i) {c : Char} (hc : c ∈ s) :
    c.isDigit = true ∨ c = '+' ∨ c = '-' := by
  cases h with
  | plain hn => exact .inl (hn.digits c hc)
  | plus hn =>
    rcases List.mem_cons.mp hc with rfl | hc
    · exact .inr (.inl rfl)
    · exact .inl (hn.digits c hc)
  | minus hn =>
    rcases List.mem_cons.mp hc with rfl | hc
    · exact .inr (.inr rfl)
    · exact .inl (hn.digits c hc)

theorem exists_digits_eq_cons (n : Nat) : ∃ c cs, digits n = c :: cs ∧ c.isDigit = true := by
  rcases hn : digits n with _ | ⟨c, cs⟩
  · rw [digits] at hn
    split at hn <;> simp at hn
  · exact ⟨c, cs, rfl, isDigit_of_mem_digits n c (hn ▸ List.mem_cons_self)⟩

theorem isNumeral_digits (n : Nat) : IsNumeral (digits n) n := by
  obtain ⟨c, cs, hcons, -⟩ := exists_digits_eq_cons n
  exact ⟨by rw [hcons]; exact nofun, isDigit_of_mem_digits n, digitsValue_digits n⟩

/-- The digits of an integer denote it. -/
theorem denotes_decimalChars (n : Int) : Denotes (decimalChars n) n := by
  unfold decimalChars
  split
  · have hminus : Denotes ('-' :: digits n.natAbs) (-(n.natAbs : Int)) :=
      .minus (isNumeral_digits n.natAbs)
    rwa [show -(n.natAbs : Int) = n by omega] at hminus
  · have hplain : Denotes (digits n.natAbs) (n.natAbs : Int) := .plain (isNumeral_digits n.natAbs)
    rwa [show (n.natAbs : Int) = n by omega] at hplain

theorem parseMagnitude_eq_ok_iff {limit n : Nat} {overflow : IntegerError} {ds : List Char} :
    parseMagnitude limit overflow ds = .ok n ↔ IsNumeral ds n ∧ n ≤ limit := by
  unfold parseMagnitude
  constructor
  · intro h
    simp only at h
    split at h
    · cases h
    rename_i hlimit
    split at h
    · cases h
    rename_i hdigits
    cases h
    simp only [Bool.or_eq_true, List.isEmpty_iff, Bool.not_eq_true', not_or, Bool.not_eq_false,
      List.all_eq_true] at hdigits
    have htake : ds.takeWhile Char.isDigit = ds := List.takeWhile_eq_self_iff.mpr hdigits.2
    exact ⟨⟨hdigits.1, hdigits.2, by rw [htake]⟩, Nat.le_of_not_lt hlimit⟩
  · rintro ⟨⟨hne, hdigits, rfl⟩, hle⟩
    have htake : ds.takeWhile Char.isDigit = ds := List.takeWhile_eq_self_iff.mpr hdigits
    have hall : ds.all Char.isDigit = true := List.all_eq_true.mpr hdigits
    simp [htake, Nat.not_lt.mpr hle, hne, hall]

/-- An integer is read of the texts that denote it, if it has no more bits than are read. -/
theorem parseInteger_eq_ok_iff {bits : Nat} {s : List Char} {i : Int} :
    parseInteger bits s = .ok i ↔
      Denotes s i ∧ -(Nat.pow 2 (bits - 1) : Int) ≤ i ∧ i < Nat.pow 2 (bits - 1) := by
  have hpos : 0 < Nat.pow 2 (bits - 1) := Nat.two_pow_pos (bits - 1)
  have hread : ∀ {limit : Nat} {overflow : IntegerError} {ds : List Char} (f : Int → Int),
      Except.map f (do let n ← parseMagnitude limit overflow ds; pure (n : Int)) = .ok i ↔
        ∃ n : Nat, IsNumeral ds n ∧ n ≤ limit ∧ f n = i := by
    intro limit overflow ds f
    have hmagnitude : ∀ n, IsNumeral ds n ∧ n ≤ limit ↔ parseMagnitude limit overflow ds = .ok n :=
      fun _ => parseMagnitude_eq_ok_iff.symm
    simp only [← and_assoc, hmagnitude]
    rcases parseMagnitude limit overflow ds with e | n
    · exact ⟨nofun, nofun⟩
    · simp [bind, Except.bind, pure, Except.pure, Except.map]
  constructor
  · intro h
    unfold parseInteger at h
    split at h
    · cases h
    all_goals
      obtain ⟨n, hn, hle, rfl⟩ := (hread _).mp h
      refine ⟨?_, by omega, by omega⟩
    · exact .minus hn
    · exact .plus hn
    · exact .plain hn
  · rintro ⟨hs, hmin, hmax⟩
    cases hs with
    | @plus ds n hn => exact (hread _).mpr ⟨n, hn, by omega, rfl⟩
    | @minus ds n hn => exact (hread _).mpr ⟨n, hn, by omega, rfl⟩
    | @plain ds n hn =>
      unfold parseInteger
      split
      · exact absurd rfl hn.nonempty
      -- A sign is no digit.
      · cases hn.digits '-' List.mem_cons_self
      · cases hn.digits '+' List.mem_cons_self
      · exact (hread _).mpr ⟨n, hn, by omega, rfl⟩

/-- Integers of 64 bits are read of the texts that denote them. -/
theorem parseInteger_int64_eq_ok_iff {s : List Char} {i : Int} :
    parseInteger 64 s = .ok i ↔ Denotes s i ∧ minInt64 ≤ i ∧ i ≤ maxInt64 := by
  have hmin : -(Nat.pow 2 (64 - 1) : Int) = minInt64 := rfl
  have hmax : (Nat.pow 2 (64 - 1) : Int) = maxInt64 + 1 := rfl
  rw [parseInteger_eq_ok_iff, hmin, hmax, Int.lt_add_one_iff]

/-- An integer that fits is read back from its digits. -/
theorem parseInteger_decimalChars {bits : Nat} {n : Int} (hmin : -(Nat.pow 2 (bits - 1) : Int) ≤ n)
    (hmax : n < Nat.pow 2 (bits - 1)) : parseInteger bits (decimalChars n) = .ok n :=
  parseInteger_eq_ok_iff.mpr ⟨denotes_decimalChars n, hmin, hmax⟩

/-- Every integer is read with enough bits. -/
theorem Denotes.parseInteger_eq {s : List Char} {i : Int} (h : Denotes s i) {bits : Nat}
    (hbits : i.natAbs ≤ bits) : parseInteger (bits + 1) s = .ok i := by
  have hpow : bits < Nat.pow 2 bits := Nat.lt_two_pow_self
  refine parseInteger_eq_ok_iff.mpr ⟨h, ?_, ?_⟩ <;> rw [Nat.add_sub_cancel] <;> omega

/-- A text denotes one integer at most. -/
theorem Denotes.eq {s : List Char} {i j : Int} (hi : Denotes s i) (hj : Denotes s j) : i = j := by
  have hread := hi.parseInteger_eq (Nat.le_add_right i.natAbs j.natAbs)
  rw [hj.parseInteger_eq (Nat.le_add_left j.natAbs i.natAbs), Except.ok.injEq] at hread
  exact hread.symm

theorem decimalChars_injective : Function.Injective decimalChars := by
  intro n n' h
  have hn' := denotes_decimalChars n'
  rw [← h] at hn'
  exact (denotes_decimalChars n).eq hn'

end Downloads.Text
