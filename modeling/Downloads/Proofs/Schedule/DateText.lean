import Downloads.Proofs.Text.Reading
import Downloads.Schedule.HttpDate
import Mathlib.Data.List.Nodup

/-!
# Texts of dates

A date can be written in a fixed form, in one with dashes, and in one without a comma. Its numbers
have a fixed count of digits, its names come from lists, and nothing else may vary but the blank of
a short day, the two digits of a year with dashes and the character behind them. Reading takes
exactly these texts of the dates that exist (`HttpDate.parse_eq_some_iff`).
-/

namespace Downloads.HttpDate

/-! ## Names and numbers -/

/-- The text has this place in the list. Places are counted from one. -/
def HasPlace (texts : List (List Char)) (i : Nat) (s : List Char) : Prop :=
  0 < i ∧ texts[i - 1]? = some s

/-- So many digits denote the number. -/
structure Padded (width n : Nat) (ds : List Char) : Prop extends Text.IsNumeral ds n where
  length : ds.length = width

def months : List (List Char) := monthNames.map String.toList

def longWeekdays : List (List Char) := weekdayNames.map String.toList

def shortWeekdays : List (List Char) := weekdayNames.map fun n => n.toList.take 3

/-- A place is found in a list without repetitions. -/
theorem findIdx?_eq_some_iff {names : List String} (text : String → List Char)
    (hnodup : (names.map text).Nodup) {s : List Char} {i : Nat} :
    (names.findIdx? fun n => text n == s).map (· + 1) = some i ↔
      HasPlace (names.map text) i s := by
  rw [Option.map_eq_some_iff, HasPlace]
  constructor
  · rintro ⟨j, hj, rfl⟩
    obtain ⟨hlt, heq, -⟩ := List.findIdx?_eq_some_iff_getElem.mp hj
    exact ⟨Nat.succ_pos j, by simpa [hlt] using heq⟩
  · rintro ⟨hpos, hi⟩
    obtain ⟨hlt, heq⟩ := List.getElem?_eq_some_iff.mp hi
    refine ⟨i - 1, List.findIdx?_eq_some_iff_getElem.mpr ⟨by simpa using hlt, ?_, ?_⟩, by omega⟩
    · simpa using heq
    · intro j hj hsame
      have hbound : j < (names.map text).length := by omega
      have hplace : (names.map text)[j] = (names.map text)[i - 1] := by
        rw [heq]
        simpa using hsame
      exact absurd ((List.Nodup.getElem_inj_iff hnodup).mp hplace) (by omega)

theorem month?_eq_some_iff {a b c : Char} {m : Nat} :
    month? a b c = some m ↔ HasPlace months m [a, b, c] :=
  findIdx?_eq_some_iff String.toList (by decide)

theorem shortWeekday?_eq_some_iff {a b c : Char} {w : Nat} :
    shortWeekday? a b c = some w ↔ HasPlace shortWeekdays w [a, b, c] :=
  findIdx?_eq_some_iff (fun n => n.toList.take 3) (by decide)

theorem longWeekday?_eq_some_iff {name : List Char} {w : Nat} :
    longWeekday? name = some w ↔ HasPlace longWeekdays w name :=
  findIdx?_eq_some_iff String.toList (by decide)

theorem padded_of_number? {d : Char} {ds : List Char} {n : Nat} (h : number? (d :: ds) = some n) :
    Padded (ds.length + 1) n (d :: ds) := by
  unfold number? at h
  split at h <;> cases h
  rename_i hdigits
  exact ⟨⟨List.cons_ne_nil d ds, List.all_eq_true.mp hdigits, rfl⟩, rfl⟩

theorem Padded.number? {width n : Nat} {ds : List Char} (h : Padded width n ds) :
    number? ds = some n := by
  rw [HttpDate.number?, if_pos (List.all_eq_true.mpr h.digits), h.value]

/-! ## The three forms -/

/-- The time of day, as in `08:49:37`. -/
def Clock (d : HttpDate) (s : List Char) : Prop :=
  ∃ hour minute second, Padded 2 d.hour hour ∧ Padded 2 d.minute minute ∧
    Padded 2 d.second second ∧ s = hour ++ ':' :: minute ++ ':' :: second

/-- The fixed form, as in `Sun, 06 Nov 1994 08:49:37 GMT`. -/
def Fixed (d : HttpDate) (s : List Char) : Prop :=
  ∃ weekday day month year clock, HasPlace shortWeekdays d.weekday weekday ∧
    Padded 2 d.day day ∧ HasPlace months d.month month ∧ Padded 4 d.year year ∧ d.Clock clock ∧
    s = weekday ++ [',', ' '] ++ day ++ ' ' :: month ++ ' ' :: year ++ ' ' :: clock ++
      [' ', 'G', 'M', 'T']

/-- The form with dashes, as in `Sunday, 06-Nov-94 08:49:37 GMT`. -/
def Dashed (d : HttpDate) (s : List Char) : Prop :=
  ∃ weekday day month year gap clock, HasPlace longWeekdays d.weekday weekday ∧
    Padded 2 d.day day ∧ HasPlace months d.month month ∧
    (∃ y, Padded 2 y year ∧ d.year = fullYear y) ∧ d.Clock clock ∧
    s = weekday ++ [',', ' '] ++ day ++ '-' :: month ++ '-' :: year ++ gap :: clock ++
      [' ', 'G', 'M', 'T']

/-- The form without a comma, as in `Sun Nov  6 08:49:37 1994`. -/
def Plain (d : HttpDate) (s : List Char) : Prop :=
  ∃ weekday month day clock year, HasPlace shortWeekdays d.weekday weekday ∧
    HasPlace months d.month month ∧
    (Padded 2 d.day day ∨ ∃ ds, Padded 1 d.day ds ∧ day = ' ' :: ds) ∧ d.Clock clock ∧
    Padded 4 d.year year ∧
    s = weekday ++ ' ' :: month ++ ' ' :: day ++ ' ' :: clock ++ ' ' :: year

theorem HasPlace.exists_three {texts : List (List Char)} (htexts : ∀ t ∈ texts, t.length = 3)
    {i : Nat} {s : List Char} (h : HasPlace texts i s) : ∃ a b c, s = [a, b, c] :=
  List.length_eq_three.mp (htexts s (List.mem_of_getElem? h.2))

theorem Padded.exists_two {n : Nat} {ds : List Char} (h : Padded 2 n ds) : ∃ a b, ds = [a, b] :=
  List.length_eq_two.mp h.length

theorem Padded.exists_four {n : Nat} {ds : List Char} (h : Padded 4 n ds) :
    ∃ a b c d, ds = [a, b, c, d] := by
  obtain ⟨a, ds, rfl⟩ := List.exists_cons_of_ne_nil h.nonempty
  obtain ⟨b, c, d, rfl⟩ := List.length_eq_three.mp (Nat.succ.inj h.length)
  exact ⟨a, b, c, d, rfl⟩

theorem Clock.exists_eight {d : HttpDate} {s : List Char} (h : d.Clock s) :
    ∃ h₁ h₂ n₁ n₂ s₁ s₂, s = [h₁, h₂, ':', n₁, n₂, ':', s₁, s₂] ∧
      HttpDate.number? [h₁, h₂] = some d.hour ∧ HttpDate.number? [n₁, n₂] = some d.minute ∧
      HttpDate.number? [s₁, s₂] = some d.second := by
  obtain ⟨hour, minute, second, hhour, hminute, hsecond, rfl⟩ := h
  obtain ⟨h₁, h₂, rfl⟩ := hhour.exists_two
  obtain ⟨n₁, n₂, rfl⟩ := hminute.exists_two
  obtain ⟨s₁, s₂, rfl⟩ := hsecond.exists_two
  exact ⟨h₁, h₂, n₁, n₂, s₁, s₂, rfl, hhour.number?, hminute.number?, hsecond.number?⟩

/-! ## Reading one form -/

theorem parseFixed_eq_some_iff {d : HttpDate} {s : List Char} :
    parseFixed s = some d ↔ d.Fixed s := by
  constructor
  · intro h
    unfold parseFixed at h
    split at h
    · simp only [bind, Option.bind_eq_some_iff, pure, Option.some.injEq] at h
      obtain ⟨w, hw, day, hday, m, hm, y, hy, hour, hhour, minute, hminute, second, hsecond,
        rfl⟩ := h
      exact ⟨_, _, _, _, _, shortWeekday?_eq_some_iff.mp hw, padded_of_number? hday,
        month?_eq_some_iff.mp hm, padded_of_number? hy, ⟨_, _, _, padded_of_number? hhour,
        padded_of_number? hminute, padded_of_number? hsecond, rfl⟩, rfl⟩
    · cases h
  · rintro ⟨weekday, day, month, year, clock, hw, hday, hm, hy, hclock, rfl⟩
    obtain ⟨w₁, w₂, w₃, rfl⟩ := hw.exists_three (by decide)
    obtain ⟨m₁, m₂, m₃, rfl⟩ := hm.exists_three (by decide)
    obtain ⟨d₁, d₂, rfl⟩ := hday.exists_two
    obtain ⟨y₁, y₂, y₃, y₄, rfl⟩ := hy.exists_four
    obtain ⟨h₁, h₂, n₁, n₂, s₁, s₂, rfl, hhour, hminute, hsecond⟩ := hclock.exists_eight
    simp only [List.cons_append, List.nil_append, parseFixed, shortWeekday?_eq_some_iff.mpr hw,
      month?_eq_some_iff.mpr hm, hday.number?, hy.number?, hhour, hminute, hsecond]
    rfl

theorem notMem_of_longWeekday {i : Nat} {s : List Char} (h : HasPlace longWeekdays i s) :
    ',' ∉ s := by
  have hnames : ∀ name ∈ longWeekdays, ',' ∉ name := by decide
  exact hnames s (List.mem_of_getElem? h.2)

theorem parseDashed_eq_some_iff {d : HttpDate} {s : List Char} :
    parseDashed s = some d ↔ d.Dashed s := by
  constructor
  · intro h
    unfold parseDashed at h
    split at h
    · rename_i d₁ d₂ m₁ m₂ m₃ y₁ y₂ gap h₁ h₂ n₁ n₂ s₁ s₂ hdrop
      simp only [bind, Option.bind_eq_some_iff, pure, Option.some.injEq] at h
      obtain ⟨w, hw, day, hday, m, hm, y, hy, hour, hhour, minute, hminute, second, hsecond,
        rfl⟩ := h
      refine ⟨s.takeWhile (· != ','), [d₁, d₂], [m₁, m₂, m₃], [y₁, y₂], gap, _,
        longWeekday?_eq_some_iff.mp hw, padded_of_number? hday, month?_eq_some_iff.mp hm,
        ⟨y, padded_of_number? hy, rfl⟩, ⟨_, _, _, padded_of_number? hhour,
        padded_of_number? hminute, padded_of_number? hsecond, rfl⟩, ?_⟩
      have hs := List.takeWhile_append_dropWhile (p := (· != ',')) (l := s)
      rw [hdrop] at hs
      simpa using hs.symm
    · cases h
  · rintro ⟨weekday, day, month, year, gap, clock, hw, hday, hm, ⟨y, hy, hfull⟩,
      hclock, rfl⟩
    obtain ⟨m₁, m₂, m₃, rfl⟩ := hm.exists_three (by decide)
    obtain ⟨d₁, d₂, rfl⟩ := hday.exists_two
    obtain ⟨y₁, y₂, rfl⟩ := hy.exists_two
    obtain ⟨h₁, h₂, n₁, n₂, s₁, s₂, rfl, hhour, hminute, hsecond⟩ := hclock.exists_eight
    have hcomma : ∀ c ∈ weekday, (c != ',') = true := fun c hc =>
      bne_iff_ne.mpr fun heq => notMem_of_longWeekday hw (heq ▸ hc)
    simp only [List.append_assoc, List.cons_append, List.nil_append, parseDashed,
      List.dropWhile_append_of_pos hcomma, List.takeWhile_append_of_pos hcomma,
      List.dropWhile_cons_of_neg, List.takeWhile_cons_of_neg, bne_self_eq_false, not_false_eq_true,
      Bool.false_eq_true, List.append_nil, longWeekday?_eq_some_iff.mpr hw,
      month?_eq_some_iff.mpr hm, hday.number?, hy.number?, hhour, hminute, hsecond]
    show some _ = some d
    rw [← hfull]

theorem parsePlain_eq_some_iff {d : HttpDate} {s : List Char} :
    parsePlain s = some d ↔ d.Plain s := by
  constructor
  · intro h
    unfold parsePlain at h
    split at h
    · rename_i w₁ w₂ w₃ m₁ m₂ m₃ d₁ d₂ h₁ h₂ n₁ n₂ s₁ s₂ y₁ y₂ y₃ y₄
      simp only [bind, Option.bind_eq_some_iff, pure, Option.some.injEq] at h
      obtain ⟨w, hw, day, hday, m, hm, y, hy, hour, hhour, minute, hminute, second, hsecond,
        rfl⟩ := h
      refine ⟨_, _, [d₁, d₂], _, _, shortWeekday?_eq_some_iff.mp hw, month?_eq_some_iff.mp hm, ?_,
        ⟨_, _, _, padded_of_number? hhour, padded_of_number? hminute, padded_of_number? hsecond,
        rfl⟩, padded_of_number? hy, rfl⟩
      unfold paddedDay? at hday
      split at hday
      · rename_i hblank
        exact .inr ⟨_, padded_of_number? hday, by rw [hblank]⟩
      · exact .inl (padded_of_number? hday)
    · cases h
  · rintro ⟨weekday, month, day, clock, year, hw, hm, hday, hclock, hy, rfl⟩
    obtain ⟨w₁, w₂, w₃, rfl⟩ := hw.exists_three (by decide)
    obtain ⟨m₁, m₂, m₃, rfl⟩ := hm.exists_three (by decide)
    obtain ⟨y₁, y₂, y₃, y₄, rfl⟩ := hy.exists_four
    obtain ⟨h₁, h₂, n₁, n₂, s₁, s₂, rfl, hhour, hminute, hsecond⟩ := hclock.exists_eight
    obtain ⟨d₁, d₂, rfl, hread⟩ : ∃ d₁ d₂, day = [d₁, d₂] ∧ paddedDay? d₁ d₂ = some d.day := by
      rcases hday with hday | ⟨ds, hday, rfl⟩
      · obtain ⟨d₁, d₂, rfl⟩ := hday.exists_two
        have hblank : d₁ ≠ ' ' := by
          rintro rfl
          cases hday.digits ' ' List.mem_cons_self
        exact ⟨d₁, d₂, rfl, by rw [paddedDay?, if_neg hblank, hday.number?]⟩
      · obtain ⟨d₂, rfl⟩ := List.length_eq_one_iff.mp hday.length
        exact ⟨' ', d₂, rfl, by rw [paddedDay?, if_pos rfl, hday.number?]⟩
    simp only [List.cons_append, List.nil_append, parsePlain, shortWeekday?_eq_some_iff.mpr hw,
      month?_eq_some_iff.mpr hm, hread, hy.number?, hhour, hminute, hsecond]
    rfl

/-! ## Reading all forms -/

/-- The fourth character tells the three forms apart. -/
theorem Fixed.fourth {d : HttpDate} {s : List Char} (h : d.Fixed s) : s[3]? = some ',' := by
  obtain ⟨weekday, day, month, year, clock, hw, -, -, -, -, rfl⟩ := h
  obtain ⟨a, b, c, rfl⟩ := hw.exists_three (by decide)
  rfl

theorem Plain.fourth {d : HttpDate} {s : List Char} (h : d.Plain s) : s[3]? = some ' ' := by
  obtain ⟨weekday, month, day, clock, year, hw, -, -, -, -, rfl⟩ := h
  obtain ⟨a, b, c, rfl⟩ := hw.exists_three (by decide)
  rfl

theorem Dashed.fourth {d : HttpDate} {s : List Char} (h : d.Dashed s) :
    ∃ c, s[3]? = some c ∧ c ≠ ',' ∧ c ≠ ' ' := by
  obtain ⟨weekday, day, month, year, gap, clock, hw, -, -, -, -, rfl⟩ := h
  have hnames : ∀ name ∈ longWeekdays, 3 < name.length ∧ name[3]? ≠ some ',' ∧
      name[3]? ≠ some ' ' := by decide
  obtain ⟨hlength, hcomma, hblank⟩ := hnames weekday (List.mem_of_getElem? hw.2)
  refine ⟨weekday[3], ?_, ?_, ?_⟩
  · simp only [List.append_assoc, List.getElem?_append_left hlength,
      List.getElem?_eq_getElem hlength]
  · rintro heq
    exact hcomma (by rw [List.getElem?_eq_getElem hlength, heq])
  · rintro heq
    exact hblank (by rw [List.getElem?_eq_getElem hlength, heq])

/-- The text is one of the three forms of the date. -/
def Written (d : HttpDate) (s : List Char) : Prop := d.Fixed s ∨ d.Dashed s ∨ d.Plain s

/-- The time of day has colons in it. -/
theorem Written.colon_mem {d : HttpDate} {s : List Char} (h : d.Written s) : ':' ∈ s := by
  have hclock : ∀ {clock}, d.Clock clock → ':' ∈ clock := by
    rintro _ ⟨hour, minute, second, -, -, -, rfl⟩
    simp
  rcases h with ⟨_, _, _, _, _, -, -, -, -, h, rfl⟩ | ⟨_, _, _, _, _, _, -, -, -, -, h, rfl⟩ |
    ⟨_, _, _, _, _, -, -, -, h, -, rfl⟩ <;>
    simp [hclock h]

theorem forms_eq_some_iff {d : HttpDate} {s : List Char} :
    (parseFixed s).or ((parseDashed s).or (parsePlain s)) = some d ↔ d.Written s := by
  simp only [Option.or_eq_some_iff, parseFixed_eq_some_iff, parseDashed_eq_some_iff,
    parsePlain_eq_some_iff, Written]
  constructor
  · rintro (h | ⟨-, h | ⟨-, h⟩⟩)
    · exact .inl h
    · exact .inr (.inl h)
    · exact .inr (.inr h)
  · rintro (h | h | h)
    · exact .inl h
    · obtain ⟨c, hc, hcomma, -⟩ := h.fourth
      refine .inr ⟨Option.eq_none_iff_forall_ne_some.mpr fun d' hd' => ?_, .inl h⟩
      rw [(parseFixed_eq_some_iff.mp hd').fourth, Option.some.injEq] at hc
      exact hcomma hc.symm
    · have hblank := h.fourth
      refine .inr ⟨Option.eq_none_iff_forall_ne_some.mpr fun d' hd' => ?_,
        .inr ⟨Option.eq_none_iff_forall_ne_some.mpr fun d' hd' => ?_, h⟩⟩
      · rw [(parseFixed_eq_some_iff.mp hd').fourth] at hblank
        cases hblank
      · obtain ⟨c, hc, -, hne⟩ := (parseDashed_eq_some_iff.mp hd').fourth
        rw [hblank, Option.some.injEq] at hc
        exact hne hc.symm

/-- The text is written in ASCII and, up to blanks at its ends, a form of a date that exists. -/
structure IsText (d : HttpDate) (s : List Char) : Prop where
  exists_day : d.isValid = true
  ascii : ∀ c ∈ s, c.toNat < 128
  written : d.Written (Text.trimBoth Text.isBlank s)

/-- Reading takes the texts of dates. -/
theorem parse_eq_some_iff {d : HttpDate} {s : List Char} : parse s = some d ↔ d.IsText s := by
  have hascii : (s.all fun c => decide (c.toNat < 128)) = true ↔ ∀ c ∈ s, c.toNat < 128 := by
    simp only [List.all_eq_true, decide_eq_true_eq]
  unfold parse
  constructor
  · intro h
    split at h
    · rename_i hall
      obtain ⟨hforms, hvalid⟩ := Option.filter_eq_some_iff.mp h
      exact ⟨hvalid, hascii.mp hall, forms_eq_some_iff.mp hforms⟩
    · cases h
  · rintro ⟨hvalid, hall, hwritten⟩
    rw [if_pos (hascii.mpr hall)]
    exact Option.filter_eq_some_iff.mpr ⟨forms_eq_some_iff.mpr hwritten, hvalid⟩

/-- A text is that of one date at most. -/
theorem IsText.eq {d d' : HttpDate} {s : List Char} (h : d.IsText s) (h' : d'.IsText s) :
    d = d' := by
  have hread := parse_eq_some_iff.mpr h
  rw [parse_eq_some_iff.mpr h', Option.some.injEq] at hread
  exact hread.symm

end Downloads.HttpDate
