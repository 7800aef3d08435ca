import Downloads.Command.Grammar
import Downloads.Proofs.Schedule.DateText
import Downloads.Saturating
import Mathlib.Algebra.Group.Int.Defs
import Mathlib.Algebra.Group.Nat.Defs
import Mathlib.Order.Lattice

/-!
# Texts of waits

A server asks for a wait by a number of seconds or by a date. The number is read with 64 bits: one
that has more is no wait at all, though one that is too long is cut to a day otherwise
(`RetryAfter.honours_seconds`). The command line takes exactly the texts of which something can be
read, and a date means the same as the number of seconds until then, as long as that has 64 bits
(`RetryAfter.readers_agree`).
-/

namespace Downloads.RetryAfter

open Command (readRetryAfter)

/-- The header without the blanks at its ends. -/
def body (header : String) : List Char := Text.trimBoth Text.isBlank header.toList

/-- The text denotes the integer, which has 64 bits. -/
structure IsSeconds (i : Int) (s : List Char) : Prop where
  denotes : Text.Denotes s i
  ge : minInt64 ≤ i
  le : i ≤ maxInt64

/-- The instant that a date means. -/
def instant (d : HttpDate) : Int := d.toUnixSeconds * nanosPerSecond

variable {header : String} {i : Int} {d : HttpDate} {now : Int}

/-! ## Reading -/

theorem parseInteger_eq_ok_iff {s : List Char} :
    Text.parseInteger 64 s = .ok i ↔ IsSeconds i s := by
  rw [Text.parseInteger_int64_eq_ok_iff]
  exact ⟨fun ⟨hdenotes, hge, hle⟩ => ⟨hdenotes, hge, hle⟩, fun h => ⟨h.denotes, h.ge, h.le⟩⟩

/-- A date has colons in it, and a number has none. -/
theorem not_isSeconds_of_isText {s : List Char} (h : d.IsText s) : ¬ IsSeconds i s := by
  intro hi
  have hcolon : ':' ∈ s := Text.mem_of_mem_trimBoth h.written.colon_mem
  obtain hc | hc | hc := hi.denotes.mem hcolon <;> cases hc

theorem parse_of_isSeconds (h : IsSeconds i (body header)) :
    parse header now = if i < 0 then none else some (clamp i.toNat) := by
  have hread := parseInteger_eq_ok_iff.mpr h
  unfold body at hread
  simp only [parse, hread]

theorem parse_of_not_isSeconds (h : ∀ i, ¬ IsSeconds i (body header)) :
    parse header now = (HttpDate.parse (body header)).bind fun d =>
      (remaining? d now).map clamp := by
  rcases hread : Text.parseInteger 64 (body header) with e | i
  · unfold body at hread ⊢
    simp only [parse, hread]
    cases HttpDate.parse (Text.trimBoth Text.isBlank header.toList) <;> rfl
  · exact absurd (parseInteger_eq_ok_iff.mp hread) (h i)

theorem parse_of_isText (h : d.IsText (body header)) :
    parse header now = (remaining? d now).map clamp := by
  rw [parse_of_not_isSeconds fun i => not_isSeconds_of_isText h, HttpDate.parse_eq_some_iff.mpr h]
  rfl

theorem parse_of_unreadable (hseconds : ∀ i, ¬ IsSeconds i (body header))
    (hdate : ∀ d : HttpDate, ¬ d.IsText (body header)) : parse header now = none := by
  have hnone : HttpDate.parse (body header) = none :=
    Option.eq_none_iff_forall_ne_some.mpr fun d hd => hdate d (HttpDate.parse_eq_some_iff.mp hd)
  rw [parse_of_not_isSeconds hseconds, hnone]
  rfl

/-- The command line takes numbers and dates. -/
theorem isReadable_iff {s : List Char} :
    isReadable s = true ↔ (∃ i, IsSeconds i s) ∨ ∃ d : HttpDate, d.IsText s := by
  have hseconds : (Text.parseInteger 64 s).isOk = true ↔ ∃ i, IsSeconds i s := by
    simp only [← parseInteger_eq_ok_iff]
    cases Text.parseInteger 64 s <;> simp [Except.isOk, Except.toBool]
  have hdate : (HttpDate.parse s).isSome = true ↔ ∃ d : HttpDate, d.IsText s := by
    simp only [← HttpDate.parse_eq_some_iff, Option.isSome_iff_exists]
  rw [isReadable, Bool.or_eq_true, hseconds, hdate]

theorem readRetryAfter_of_readable (h : isReadable (body header) = true) :
    readRetryAfter header = .ok (.text (String.ofList (body header))) := if_pos h

theorem readRetryAfter_of_not_readable (h : isReadable (body header) ≠ true) :
    ∃ e, readRetryAfter header = .error e := ⟨_, if_neg h⟩

/-- What the command line keeps of a text is read like the text. -/
theorem parse_body (raw : String) (now : Int) :
    parse (String.ofList (body raw)) now = parse raw now := by
  have hbody : Text.trimBoth Text.isBlank (String.ofList (body raw)).toList = body raw := by
    rw [String.toList_ofList]
    exact Text.trimBoth_trimBoth Text.isBlank raw.toList
  unfold parse
  rw [hbody]
  rfl

/-! ## Waits -/

theorem clamp_eq (n : Nat) : clamp n = max 30 (min 86400 n) := rfl

theorem clamp_mono {n n' : Nat} (h : n ≤ n') : clamp n ≤ clamp n' := by
  rw [clamp_eq, clamp_eq]
  omega

theorem remaining?_of_le (h : now ≤ instant d) :
    remaining? d now = some ((instant d - now) / nanosPerSecond).toNat :=
  if_pos (Int.sub_nonneg_of_le h)

theorem remaining?_of_lt (h : instant d < now) : remaining? d now = none :=
  if_neg (by unfold instant at h; omega)

theorem remaining?_eq_none_iff : remaining? d now = none ↔ instant d < now := by
  constructor
  · intro h
    by_contra hle
    rw [remaining?_of_le (Int.not_lt.mp hle)] at h
    cases h
  · exact remaining?_of_lt

/-- The later it is, the less is left. -/
theorem remaining?_antitone {later : Int} (hle : now ≤ later) {left : Nat}
    (h : remaining? d later = some left) :
    ∃ left', remaining? d now = some left' ∧ left ≤ left' := by
  have hlater : later ≤ instant d := by
    by_contra hlt
    rw [remaining?_of_lt (Int.not_le.mp hlt)] at h
    cases h
  rw [remaining?_of_le hlater, Option.some.injEq] at h
  refine ⟨_, remaining?_of_le (hle.trans hlater), ?_⟩
  rw [← h]
  exact Int.toNat_le_toNat (Int.ediv_le_ediv (by decide) (by omega))

/-! ## Numbers of seconds -/

/-- The header is digits that denote the number, with blanks around them or without. -/
def AsksFor (header : String) (n : Nat) : Prop :=
  ∃ before ds after, header.toList = before ++ ds ++ after ∧
    (∀ c ∈ before, Text.isBlank c = true) ∧ Text.IsNumeral ds n ∧
    (∀ c ∈ after, Text.isBlank c = true)

theorem AsksFor.isNumeral {n : Nat} (h : AsksFor header n) : Text.IsNumeral (body header) n := by
  obtain ⟨before, ds, after, htext, hbefore, hds, hafter⟩ := h
  have hdigit : ∀ c ∈ ds, Text.isBlank c = false := fun c hc =>
    Text.isBlank_of_isDigit (hds.digits c hc)
  have hbody : body header = ds := by
    rw [body, htext, Text.trimBoth_append ds hbefore hafter]
    exact Text.trimBoth_of_ends (fun c hc => hdigit c (List.mem_of_mem_head? hc))
      fun c hc => hdigit c (List.mem_of_mem_getLast? hc)
  rwa [hbody]

theorem AsksFor.isSeconds {n : Nat} (h : AsksFor header n) (hlt : n < 2 ^ 63) :
    IsSeconds n (body header) where
  denotes := .plain h.isNumeral
  ge := by unfold minInt64; omega
  le := by unfold maxInt64; omega

theorem AsksFor.parse_eq {n : Nat} (h : AsksFor header n) (hlt : n < 2 ^ 63) (now : Int) :
    parse header now = some (clamp n) := by
  rw [parse_of_isSeconds (h.isSeconds hlt), if_neg (by omega), Int.toNat_natCast]

/-- A number that has more bits is nothing that is read. -/
theorem AsksFor.unreadable {n : Nat} (h : AsksFor header n) (hge : 2 ^ 63 ≤ n) :
    (∀ i, ¬ IsSeconds i (body header)) ∧ ∀ d : HttpDate, ¬ d.IsText (body header) := by
  constructor
  · intro i hi
    obtain rfl : i = n := hi.denotes.eq (.plain h.isNumeral)
    have hle := hi.le
    unfold maxInt64 at hle
    omega
  · intro d hd
    cases h.isNumeral.digits ':' (Text.mem_of_mem_trimBoth hd.written.colon_mem)

/-- **Numbers of seconds.** A header that is a number, with whatever blanks around it, asks for that
many seconds, cut to a day and raised to half a minute, and the command line takes it, if the number
is less than `2 ^ 63`. No smaller number is ever a longer wait then. A larger number is not read at
all: it is no wait, and the command line refuses it. -/
theorem honours_seconds {header : String} {n : Nat} (h : AsksFor header n) :
    (n < 2 ^ 63 →
      (∀ now, parse header now = some (max 30 (min 86400 n))) ∧
      (∃ text, readRetryAfter header = .ok (.text text)) ∧
      ∀ header' n', AsksFor header' n' → n' ≤ n → ∀ now now', ∃ wait' wait,
        parse header' now' = some wait' ∧ parse header now = some wait ∧ wait' ≤ wait) ∧
    (2 ^ 63 ≤ n → (∀ now, parse header now = none) ∧ ∃ e, readRetryAfter header = .error e) := by
  refine ⟨fun hlt => ⟨h.parse_eq hlt, ?_, ?_⟩, fun hge => ?_⟩
  · exact ⟨_, readRetryAfter_of_readable (isReadable_iff.mpr (.inl ⟨n, h.isSeconds hlt⟩))⟩
  · intro header' n' h' hle now now'
    exact ⟨clamp n', clamp n, h'.parse_eq (Nat.lt_of_le_of_lt hle hlt) now', h.parse_eq hlt now,
      clamp_mono hle⟩
  · obtain ⟨hseconds, hdate⟩ := h.unreadable hge
    refine ⟨fun now => parse_of_unreadable hseconds hdate, readRetryAfter_of_not_readable ?_⟩
    rw [Ne, isReadable_iff]
    rintro (⟨i, hi⟩ | ⟨d, hd⟩)
    · exact hseconds i hi
    · exact hdate d hd

/-- The shortest time that takes more than 64 bits. -/
def overlong : String := "\t9223372036854775808 "

theorem asksFor_overlong : AsksFor overlong (2 ^ 63) :=
  ⟨['\t'], "9223372036854775808".toList, [' '], by decide +kernel,
    List.forall_mem_singleton.mpr (by decide),
    ⟨by decide +kernel, List.all_eq_true.mp (by decide +kernel), by decide +kernel⟩,
    List.forall_mem_singleton.mpr (by decide)⟩

/-- A longer wait than all that are cut to a day is no wait. -/
theorem not_honours_overlong :
    AsksFor overlong (2 ^ 63) ∧ parse overlong 0 ≠ some (max 30 (min 86400 (2 ^ 63))) ∧
      ¬ ∃ v, readRetryAfter overlong = .ok v := by
  refine ⟨asksFor_overlong, by decide +kernel, ?_⟩
  rintro ⟨v, hv⟩
  have hread : (readRetryAfter overlong).isOk = false := by decide +kernel
  rw [hv] at hread
  cases hread

theorem honours_seconds_overlong :
    AsksFor "9223372036854775807" (2 ^ 63 - 1) ∧ AsksFor overlong (2 ^ 63) ∧
      (∀ now, parse "9223372036854775807" now = some 86400) ∧ ∀ now, parse overlong now = none := by
  have hlast : AsksFor "9223372036854775807" (2 ^ 63 - 1) :=
    ⟨[], "9223372036854775807".toList, [], by decide +kernel, nofun,
      ⟨by decide +kernel, List.all_eq_true.mp (by decide +kernel), by decide +kernel⟩, nofun⟩
  obtain ⟨hread, -⟩ := honours_seconds hlast
  obtain ⟨-, hoverlong⟩ := honours_seconds asksFor_overlong
  exact ⟨hlast, asksFor_overlong, (hread (by decide)).1, (hoverlong (Nat.le_refl _)).1⟩

/-! ## The command line and the scheduler -/

/-- A readable text is none of a wait if it is a negative number or a date that is over. -/
theorem parse_eq_none_iff (h : isReadable (body header) = true) :
    parse header now = none ↔
      (∃ i, IsSeconds i (body header) ∧ i < 0) ∨
        ∃ d : HttpDate, d.IsText (body header) ∧ instant d < now := by
  obtain ⟨i, hi⟩ | ⟨d, hd⟩ := isReadable_iff.mp h
  · have hdate : ∀ d : HttpDate, ¬ d.IsText (body header) := fun d hd =>
      not_isSeconds_of_isText hd hi
    rw [parse_of_isSeconds hi]
    constructor
    · intro hnone
      split at hnone
      · exact .inl ⟨i, hi, ‹_›⟩
      · cases hnone
    · rintro (⟨j, hj, hneg⟩ | ⟨d, hd, -⟩)
      · rw [hi.denotes.eq hj.denotes, if_pos hneg]
      · exact absurd hd (hdate d)
  · rw [parse_of_isText hd, Option.map_eq_none_iff, remaining?_eq_none_iff]
    constructor
    · exact fun hlt => .inr ⟨d, hd, hlt⟩
    · rintro (⟨i, hi, -⟩ | ⟨d', hd', hlt⟩)
      · exact absurd hi (not_isSeconds_of_isText hd)
      · rwa [hd.eq hd']

/-- The decimal text of a time that is left. -/
theorem asksFor_decimal {left : Int} (h : 0 ≤ left) : AsksFor (Text.decimal left) left.toNat := by
  have hdigits : (Text.decimal left).toList = Text.digits left.toNat := by
    rw [Text.decimal, String.toList_ofList, Text.decimalChars, if_neg (by omega)]
    congr 1
    omega
  refine ⟨[], Text.digits left.toNat, [], ?_, nofun, Text.isNumeral_digits _, nofun⟩
  rw [hdigits, List.nil_append, List.append_nil]

/-- **The two readers.** The command line takes a text if and only if it is, without the blanks at
its ends, an integer of 64 bits or a date. It keeps a text that is read as the given one at every
time, and nothing is read of it only if it is a negative number or a date before that time. Of what
the command line refuses, nothing is ever read. A date is read as the decimal text of the whole
seconds that are left until then, unless these have more than 64 bits, of which nothing is read. The
wait for a date never gets longer as time goes on. -/
theorem readers_agree (raw : String) :
    ((∃ v, readRetryAfter raw = .ok v) ↔
      (∃ i, IsSeconds i (body raw)) ∨ ∃ d : HttpDate, d.IsText (body raw)) ∧
    (∀ v, readRetryAfter raw = .ok v → ∃ text, v = .text text ∧ ∀ now,
      parse text now = parse raw now ∧
      (parse raw now = none ↔ (∃ i, IsSeconds i (body raw) ∧ i < 0) ∨
        ∃ d : HttpDate, d.IsText (body raw) ∧ instant d < now)) ∧
    (∀ e, readRetryAfter raw = .error e → ∀ now, parse raw now = none) ∧
    ∀ d : HttpDate, d.IsText (body raw) → ∀ now,
      (now ≤ instant d →
        let left := (instant d - now) / nanosPerSecond
        parse raw now = some (max 30 (min 86400 left.toNat)) ∧
        parse (Text.decimal left) now = if left < 2 ^ 63 then parse raw now else none) ∧
      ∀ later, now ≤ later → ∀ wait', parse raw later = some wait' →
        ∃ wait, parse raw now = some wait ∧ wait' ≤ wait := by
  have hrefused : ∀ {e}, readRetryAfter raw = .error e → isReadable (body raw) ≠ true := by
    intro e he hreadable
    rw [readRetryAfter_of_readable hreadable] at he
    cases he
  have htaken : ∀ {v}, readRetryAfter raw = .ok v → isReadable (body raw) = true := by
    intro v hv
    by_contra hnot
    obtain ⟨e, he⟩ := readRetryAfter_of_not_readable hnot
    rw [he] at hv
    cases hv
  refine ⟨?_, fun v hv => ?_, fun e he now => ?_, fun d hd now => ⟨fun hle => ?_, ?_⟩⟩
  · rw [← isReadable_iff]
    exact ⟨fun ⟨v, hv⟩ => htaken hv, fun h => ⟨_, readRetryAfter_of_readable h⟩⟩
  · have hreadable := htaken hv
    rw [readRetryAfter_of_readable hreadable, Except.ok.injEq] at hv
    exact ⟨_, hv.symm, fun now => ⟨parse_body raw now, parse_eq_none_iff hreadable⟩⟩
  · have hnot := hrefused he
    rw [Ne, isReadable_iff, not_or] at hnot
    exact parse_of_unreadable (fun i hi => hnot.1 ⟨i, hi⟩) fun d hd => hnot.2 ⟨d, hd⟩
  · intro left
    have hleft : 0 ≤ left := Int.ediv_nonneg (Int.sub_nonneg_of_le hle) (by decide)
    have hasks := asksFor_decimal hleft
    have hread : parse raw now = some (clamp left.toNat) := by
      rw [parse_of_isText hd, remaining?_of_le hle]
      rfl
    refine ⟨hread, ?_⟩
    split
    · rw [hread, hasks.parse_eq (by omega)]
    · obtain ⟨hseconds, hdate⟩ := hasks.unreadable (by omega)
      exact parse_of_unreadable hseconds hdate
  · intro later hle wait' hwait'
    rw [parse_of_isText hd, Option.map_eq_some_iff] at hwait'
    obtain ⟨left, hleft, rfl⟩ := hwait'
    obtain ⟨left', hleft', hle'⟩ := remaining?_antitone hle hleft
    exact ⟨clamp left', by rw [parse_of_isText hd, hleft']; rfl, clamp_mono hle'⟩

/-- The last second that dates can tell. -/
def lastDate : String := "Fri, 31 Dec 9999 23:59:59 GMT"

/-- The last instant at which the seconds until then have more than 64 bits. -/
def remoteInstant : Int := -9223371783452475009 * nanosPerSecond

/-- The date asks for a wait and the number of seconds until then does not. -/
theorem not_readers_agree_lastDate :
    minInt64 * nanosPerSecond ≤ remoteInstant ∧
      ∃ d : HttpDate, d.IsText (body lastDate) ∧ remoteInstant ≤ instant d ∧
        (instant d - remoteInstant) / nanosPerSecond = 9223372036854775808 ∧
        parse lastDate remoteInstant = some 86400 ∧
        parse (Text.decimal 9223372036854775808) remoteInstant = none := by
  refine ⟨by decide, ⟨5, 31, 12, 9999, 23, 59, 59⟩, ?_, by decide +kernel, by decide +kernel,
    by decide +kernel, by decide +kernel⟩
  rw [← HttpDate.parse_eq_some_iff]
  decide +kernel

/-- Forty-one seconds and a half before the last date, of which the half is cut off. -/
theorem readers_agree_lastDate :
    (∃ v, readRetryAfter lastDate = .ok v) ∧
      parse lastDate (253402300799 * nanosPerSecond - 41500000000) = some 41 ∧
      parse (Text.decimal 41) (253402300799 * nanosPerSecond - 41500000000) = some 41 ∧
      parse lastDate (253402300799 * nanosPerSecond + 1) = none := by
  have hd : HttpDate.IsText ⟨5, 31, 12, 9999, 23, 59, 59⟩ (body lastDate) := by
    rw [← HttpDate.parse_eq_some_iff]
    decide +kernel
  obtain ⟨htakes, hkeeps, -, hdate⟩ := readers_agree lastDate
  obtain ⟨v, hv⟩ := htakes.mpr (.inr ⟨_, hd⟩)
  obtain ⟨text, -, hread⟩ := hkeeps v hv
  obtain ⟨hleft, -⟩ := hdate _ hd (253402300799 * nanosPerSecond - 41500000000)
  obtain ⟨hparse, hdecimal⟩ := hleft (by decide +kernel)
  refine ⟨⟨v, hv⟩, hparse, ?_, ?_⟩
  · rw [hparse] at hdecimal
    exact hdecimal
  · exact (hread _).2.mpr (.inr ⟨_, hd, by decide +kernel⟩)

end Downloads.RetryAfter
