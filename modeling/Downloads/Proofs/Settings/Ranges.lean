import Downloads.Proofs.Settings.Meaning

/-!
# Ranges of settings

Some numbers have ranges, and texts that are shown are not blank. Lines are read without a look at
the ranges, and the values that are left at the end are held against them. So a value out of its
range is reported without its line, unless it has not even 32 bits, and it is not reported at all
if a later line replaces it (`Settings.parse_out_of_range`).
-/

namespace Downloads

/-! ## Values out of range -/

namespace SettingKey

/-- The least and the largest number for a key. -/
def range? : SettingKey → Option (Nat × Nat)
  | .dbMaxConnections => some (1, 20)
  | .dbBusyTimeoutMs => some (0, 120000)
  | .retryBaseDelaySecs => some (1, 3600)
  | _ => none

/-- The text of the key is shown. -/
def isShown : SettingKey → Bool
  | .labelQueued | .labelRunning | .labelError | .rootTitle => true
  | _ => false

/-- The text denotes an integer out of the range of the key, or it is a blank text between quotes
and would be shown. -/
inductive Excludes (k : SettingKey) (s : List Char) : Prop
  | number {low high : Nat} {i : Int} (hrange : k.range? = some (low, high))
    (hi : Text.Denotes s i) (hout : i < low ∨ high < i)
  | blank {t : String} (hshown : k.isShown = true) (ht : s = SettingKind.quote t)
    (hblank : Text.isBlankText t = true)

variable {k : SettingKey} {s : List Char} {low high : Nat}

theorem isShown_of_range (hrange : k.range? = some (low, high)) : k.isShown = false := by
  cases k <;> first | rfl | cases hrange

theorem kind_of_range (hrange : k.range? = some (low, high)) : k.kind = .number := by
  cases k <;> first | rfl | cases hrange

theorem kind_of_isShown (hshown : k.isShown = true) : k.kind = .text := by
  cases k <;> first | rfl | cases hshown

theorem excludes_number_iff {i : Int} (hrange : k.range? = some (low, high))
    (hi : Text.Denotes s i) : k.Excludes s ↔ i < low ∨ high < i := by
  constructor
  · rintro (⟨hrange', hi', hout⟩ | ⟨hshown, -, -⟩)
    · rw [hrange, Option.some.injEq, Prod.mk.injEq] at hrange'
      obtain ⟨rfl, rfl⟩ := hrange'
      rwa [hi.eq hi']
    · rw [isShown_of_range hrange] at hshown
      cases hshown
  · exact .number hrange hi

theorem excludes_quote_iff {t : String} (hshown : k.isShown = true) :
    k.Excludes (SettingKind.quote t) ↔ Text.isBlankText t = true := by
  constructor
  · rintro (⟨hrange, -, -⟩ | ⟨-, ht, hblank⟩)
    · rw [isShown_of_range hrange] at hshown
      cases hshown
    · rw [← Settings.parseQuoted_eq_ok_iff, Settings.parseQuoted_eq_ok_iff.mpr rfl,
        Except.ok.injEq] at ht
      rwa [ht]
  · exact .blank hshown rfl

/-- A key without a range that is not shown takes all values. -/
theorem not_excludes (hrange : k.range? = none) (hshown : k.isShown = false) : ¬ k.Excludes s := by
  rintro (⟨hrange', -, -⟩ | ⟨hshown', -, -⟩)
  · rw [hrange] at hrange'
    cases hrange'
  · rw [hshown] at hshown'
    cases hshown'

/-- Whether a value is out of range does not depend on how it is written. -/
theorem excludes_iff_write {v : k.kind.Value} (h : k.kind.Denotes s v) :
    k.Excludes s ↔ k.Excludes (k.kind.write v) := by
  have hnumber : ∀ {k : SettingKey} {n : Nat} {low high}, k.range? = some (low, high) →
      SettingKind.DenotesNumber s n → (k.Excludes s ↔ k.Excludes (Text.digits n)) := by
    intro k n low high hrange hn
    rw [excludes_number_iff hrange hn.1,
      excludes_number_iff hrange (.plain (Text.isNumeral_digits n))]
  cases k with
  | dbMaxConnections | dbBusyTimeoutMs | retryBaseDelaySecs => exact hnumber rfl h
  | _ => exact iff_of_eq (congrArg (Excludes _) h)

end SettingKey

namespace SettingsError

/-- The number of the line that the error names. -/
def line? : SettingsError → Option Nat
  | .noAssignment line | .unknownKey _ line | .invalidValue _ line _ => some line
  | .outOfRange .. | .blankText _ => none

/-- An error that names a line says so. -/
theorem causes_of_line? {e : SettingsError} {number : Nat} (h : e.line? = some number) :
    ∃ before after rest,
      e.causes = (before ++ (" on line " ++ Text.decimal number ++ after)) :: rest := by
  cases e with
  | noAssignment line =>
    cases h
    refine ⟨"Invalid config syntax", ": expected key = value", [], ?_⟩
    simp [causes, ← String.toList_inj]
  | unknownKey key line =>
    cases h
    refine ⟨"Unknown configuration key: '" ++ key ++ "'", "", [], ?_⟩
    simp [causes, ← String.toList_inj]
  | invalidValue key line fault =>
    cases h
    refine ⟨"Invalid `" ++ key.name ++ "` value", "", [fault.message], ?_⟩
    simp [causes, ← String.toList_inj]
  | outOfRange | blankText => cases h

end SettingsError

namespace Settings

variable {c : Settings} {k : SettingKey} {low high : Nat}

theorem checkRange_eq_ok_iff (hrange : k.range? = some (low, high)) {o : Option Nat} :
    checkRange k low high o = .ok () ↔ ∀ n, o = some n → ¬ k.Excludes (Text.digits n) := by
  cases o with
  | none => simp [checkRange]
  | some n =>
    simp only [checkRange, Option.some.injEq, forall_eq',
      SettingKey.excludes_number_iff hrange (.plain (Text.isNumeral_digits n))]
    split
    · simp only [true_iff]
      omega
    · simp only [reduceCtorEq, false_iff]
      omega

theorem checkText_eq_ok_iff (hshown : k.isShown = true) {o : Option String} :
    checkText k o = .ok () ↔ ∀ t, o = some t → ¬ k.Excludes (SettingKind.quote t) := by
  cases o with
  | none => simp [checkText]
  | some t =>
    simp only [checkText, Option.some.injEq, forall_eq', SettingKey.excludes_quote_iff hshown]
    split <;> simp_all

/-- Settings are valid if none of their values is out of range. -/
theorem validate_eq_ok_iff :
    c.validate = .ok () ↔ ∀ k v, c.get k = some v → ¬ k.Excludes (k.kind.write v) := by
  simp only [validate, then_eq_ok_iff]
  rw [checkRange_eq_ok_iff rfl, checkRange_eq_ok_iff rfl, checkRange_eq_ok_iff rfl,
    checkText_eq_ok_iff rfl, checkText_eq_ok_iff rfl, checkText_eq_ok_iff rfl,
    checkText_eq_ok_iff rfl]
  constructor
  · rintro ⟨hconnections, htimeout, hdelay, hqueued, hrunning, herror, htitle⟩ k v hv
    cases k with
    | dbMaxConnections => exact hconnections v hv
    | dbBusyTimeoutMs => exact htimeout v hv
    | retryBaseDelaySecs => exact hdelay v hv
    | labelQueued => exact hqueued v hv
    | labelRunning => exact hrunning v hv
    | labelError => exact herror v hv
    | rootTitle => exact htitle v hv
    | _ => exact SettingKey.not_excludes rfl rfl
  · intro h
    exact ⟨h .dbMaxConnections, h .dbBusyTimeoutMs, h .retryBaseDelaySecs, h .labelQueued,
      h .labelRunning, h .labelError, h .rootTitle⟩

/-- The check gives no error that names a line. -/
def NamesNoLine (check : Except SettingsError Unit) : Prop :=
  ∀ e, check = .error e → e.line? = none

theorem NamesNoLine.andThen {check check' : Except SettingsError Unit} (h : NamesNoLine check)
    (h' : NamesNoLine check') : NamesNoLine (check >>= fun _ => check') := by
  rcases check with e | ⟨⟩
  · exact h
  · exact h'

theorem namesNoLine_checkRange {o : Option Nat} : NamesNoLine (checkRange k low high o) := by
  intro e he
  cases o with
  | none => cases he
  | some n =>
    simp only [checkRange] at he
    split at he <;> cases he
    rfl

theorem namesNoLine_checkText {o : Option String} : NamesNoLine (checkText k o) := by
  intro e he
  cases o with
  | none => cases he
  | some t =>
    simp only [checkText] at he
    split at he <;> cases he
    rfl

/-- What is wrong with the values that are left at the end names no line. -/
theorem namesNoLine_validate (c : Settings) : NamesNoLine c.validate :=
  .andThen namesNoLine_checkRange <| .andThen namesNoLine_checkRange <|
    .andThen namesNoLine_checkRange <| .andThen namesNoLine_checkText <|
    .andThen namesNoLine_checkText <| .andThen namesNoLine_checkText namesNoLine_checkText

/-! ## Lines out of range -/

/-- The line has an equals sign; the key stands before the first one and the text behind it, both
without the blanks around them. -/
def Gives (line : List Char) (k : SettingKey) (s : List Char) : Prop :=
  ∃ left right, Says line (left ++ '=' :: right) ∧ '=' ∉ left ∧
    String.ofList (Text.trimBoth Text.isBlank left) = k.name ∧ Text.trimBoth Text.isBlank right = s

/-- The line gives a key a value out of its range. -/
def OutOfRange (line : List Char) : Prop := ∃ k s, Gives line k s ∧ k.Excludes s

/-- The line gives a key of numbers an integer that has not 32 bits. -/
def Unfit (line : List Char) : Prop :=
  ∃ k s i, Gives line k s ∧ k.kind = .number ∧ Text.Denotes s i ∧ ¬ (0 ≤ i ∧ i ≤ maxNumber)

/-- The line says nothing, or it assigns a key a value that is not out of its range. -/
def Acceptable (line : List Char) : Prop :=
  SaysNothing line ∨ ∃ a, Assigns line a ∧ ¬ a.1.Excludes (a.1.kind.write a.2)

variable {line : List Char} {lines before after : List (List Char)} {number : Nat} {s : List Char}
  {as : List Assignment}

theorem assigns_iff {a : Assignment} :
    Assigns line a ↔ ∃ s, Gives line a.1 s ∧ a.1.kind.Denotes s a.2 := by
  constructor
  · rintro ⟨left, right, hsays, hleft, hkey, hvalue⟩
    exact ⟨_, ⟨left, right, hsays, hleft, hkey, rfl⟩, hvalue⟩
  · rintro ⟨s, ⟨left, right, hsays, hleft, hkey, rfl⟩, hvalue⟩
    exact ⟨left, right, hsays, hleft, hkey, hvalue⟩

/-- A line gives one text to one key. -/
theorem Gives.eq {k' : SettingKey} {s' : List Char} (h : Gives line k s) (h' : Gives line k' s') :
    k = k' ∧ s = s' := by
  obtain ⟨left, right, hsays, hleft, hkey, rfl⟩ := h
  obtain ⟨left', right', hsays', hleft', hkey', rfl⟩ := h'
  have hcut := Text.splitOnce_eq_some_iff.mpr ⟨says_iff.mp hsays, hleft⟩
  rw [Text.splitOnce_eq_some_iff.mpr ⟨says_iff.mp hsays', hleft'⟩] at hcut
  cases hcut
  rw [hkey] at hkey'
  have hname := SettingKey.ofName?_name k
  rw [hkey', SettingKey.ofName?_name, Option.some.injEq] at hname
  exact ⟨hname.symm, rfl⟩

theorem readLine_of_gives (h : Gives line k s) :
    c.readLine number line = (c.assign k s).mapError (.invalidValue k number) := by
  obtain ⟨left, right, hsays, hleft, hkey, rfl⟩ := h
  have hcut : Text.splitOnce '=' (left ++ '=' :: right) = some (left, right) :=
    Text.splitOnce_eq_some_iff.mpr ⟨rfl, hleft⟩
  have hempty : (left ++ '=' :: right).isEmpty = false := by simp
  simp only [readLine, says_iff.mp hsays, hcut, hempty, hkey, SettingKey.ofName?_name]
  rfl

/-- An integer that has not 32 bits is an error that names the line. -/
theorem Unfit.readLine_eq (h : Unfit line) (c : Settings) (number : Nat) :
    ∃ k fault, c.readLine number line = .error (.invalidValue k number fault) := by
  obtain ⟨k, s, i, hgives, hkind, hi, hout⟩ := h
  have hvalue : ∀ {kind : SettingKind} {v : kind.Value}, kind = .number → ¬ kind.Denotes s v := by
    rintro _ n rfl ⟨hn, hle⟩
    obtain rfl := hi.eq hn
    exact hout ⟨Int.natCast_nonneg n, hle⟩
  rcases hparse : k.kind.parse s with fault | v
  · refine ⟨k, fault, ?_⟩
    rw [readLine_of_gives hgives, assign_eq, hparse]
    rfl
  · exact absurd (SettingKind.parse_eq_ok_iff.mp hparse) (hvalue hkind)

/-- The line can be read: it says nothing, or it assigns a key a value, whatever its range. -/
def Legible (line : List Char) : Prop := SaysNothing line ∨ ∃ a, Assigns line a

theorem Unfit.not_legible (h : Unfit line) : ¬ Legible line := by
  obtain ⟨k, fault, herror⟩ := h.readLine_eq {} 0
  rintro (hnothing | ⟨a, ha⟩)
  · rw [readLine_of_saysNothing hnothing] at herror
    cases herror
  · rw [readLine_of_assigns ha] at herror
    cases herror

theorem Unfit.outOfRange (h : Unfit line) : OutOfRange line := by
  obtain ⟨k, s, i, hgives, hkind, hi, hout⟩ := h
  obtain ⟨low, high, hrange, hle⟩ : ∃ low high, k.range? = some (low, high) ∧ high ≤ 120000 := by
    cases k <;> first | exact ⟨_, _, rfl, by decide⟩ | cases hkind
  refine ⟨k, s, hgives, .number hrange hi ?_⟩
  unfold maxNumber at hout
  omega

/-- A value out of its range is assigned if it has 32 bits. -/
theorem OutOfRange.exists_assigns (h : OutOfRange line) (hfit : ¬ Unfit line) :
    ∃ a, Assigns line a ∧ a.1.Excludes (a.1.kind.write a.2) := by
  obtain ⟨k, s, hgives, hexcludes⟩ := h
  obtain ⟨v, hv⟩ : ∃ v, k.kind.Denotes s v := by
    rcases hexcludes with @⟨low, high, i, hrange, hi, -⟩ | @⟨t, hshown, ht, -⟩
    · have hbits : 0 ≤ i ∧ i ≤ maxNumber := by
        by_contra hout
        exact hfit ⟨k, s, i, hgives, SettingKey.kind_of_range hrange, hi, hout⟩
      have hcast : ((i.toNat : Nat) : Int) = i := Int.toNat_of_nonneg hbits.1
      rw [SettingKey.kind_of_range hrange]
      exact ⟨i.toNat, by rwa [hcast], by rw [hcast]; exact hbits.2⟩
    · rw [SettingKey.kind_of_isShown hshown]
      exact ⟨t, ht⟩
  exact ⟨⟨k, v⟩, assigns_iff.mpr ⟨s, hgives, hv⟩, (SettingKey.excludes_iff_write hv).mp hexcludes⟩

theorem legible_of_not_unfit (h : Acceptable line ∨ OutOfRange line) (hfit : ¬ Unfit line) :
    Legible line := by
  obtain (hnothing | ⟨a, ha, -⟩) | hout := h
  · exact .inl hnothing
  · exact .inr ⟨a, ha⟩
  · obtain ⟨a, ha, -⟩ := hout.exists_assigns hfit
    exact .inr ⟨a, ha⟩

/-! ## Files with values out of range -/

theorem exists_make (h : ∀ l ∈ lines, Legible l) : ∃ as, Make lines as := by
  induction lines with
  | nil => exact ⟨[], .nil⟩
  | cons line lines ih =>
    rw [List.forall_mem_cons] at h
    obtain ⟨as, has⟩ := ih h.2
    obtain hnothing | ⟨a, ha⟩ := h.1
    · exact ⟨as, .skip hnothing has⟩
    · exact ⟨a :: as, .assign ha has⟩

theorem readLines_append (c : Settings) (number : Nat) (xs ys : List (List Char)) :
    c.readLines number (xs ++ ys) =
      (c.readLines number xs).bind fun c => c.readLines (number + xs.length) ys := by
  induction xs generalizing c number with
  | nil => rfl
  | cons line xs ih =>
    rw [List.cons_append, readLines, readLines]
    rcases c.readLine number line with e | c'
    · rfl
    · rw [List.length_cons, ← Nat.add_assoc, Nat.add_right_comm]
      exact ih c' (number + 1)

/-- The first line that cannot be read is an error that names it. -/
theorem parse_of_unfit {text : String} (hlines : linesOf text.toList = before ++ line :: after)
    (hbefore : ∀ l ∈ before, Legible l) (hline : Unfit line) :
    ∃ k fault, parse text = .error (.invalidValue k (before.length + 1) fault) := by
  obtain ⟨as, has⟩ := exists_make hbefore
  have hread : readLines {} 1 before = .ok (setAll {} as) := readLines_eq_ok_iff.mpr ⟨as, has, rfl⟩
  obtain ⟨k, fault, herror⟩ := hline.readLine_eq (setAll {} as) (1 + before.length)
  refine ⟨k, fault, ?_⟩
  rw [Nat.add_comm before.length 1, parse, hlines, readLines_append, hread]
  simp only [Except.bind, readLines, herror]
  rfl

/-- If all lines can be read, an error names no line. -/
theorem line?_of_legible {text : String} (h : ∀ l ∈ linesOf text.toList, Legible l)
    {e : SettingsError} (he : parse text = .error e) : e.line? = none := by
  obtain ⟨as, has⟩ := exists_make h
  have hread : readLines {} 1 (linesOf text.toList) = .ok (setAll {} as) :=
    readLines_eq_ok_iff.mpr ⟨as, has, rfl⟩
  rw [parse, hread] at he
  rcases hvalid : validate (setAll {} as) with e' | ⟨⟩
  · simp only [bind, Except.bind, hvalid, Except.error.injEq] at he
    exact he ▸ namesNoLine_validate _ e' hvalid
  · simp only [bind, Except.bind, hvalid] at he
    cases he

/-- Each value out of its range is replaced: a line behind it assigns the key a value that is
not. -/
def Corrected (lines : List (List Char)) : Prop :=
  ∀ before line after k s, lines = before ++ line :: after → Gives line k s → k.Excludes s →
    ∃ l ∈ after, Acceptable l ∧ ∃ s', Gives l k s'

theorem corrected_nil : Corrected [] := fun before line after k s hlines => by
  simp at hlines

theorem corrected_cons :
    Corrected (line :: lines) ↔ (∀ k s, Gives line k s → k.Excludes s →
      ∃ l ∈ lines, Acceptable l ∧ ∃ s', Gives l k s') ∧ Corrected lines := by
  constructor
  · intro h
    exact ⟨fun k s => h [] line lines k s rfl, fun before l after k s hlines =>
      h (line :: before) l after k s (congrArg (line :: ·) hlines)⟩
  · rintro ⟨hfirst, hrest⟩ (_ | ⟨l, before⟩) l' after k s hlines
    · cases hlines
      exact hfirst k s
    · obtain ⟨-, hlines⟩ := List.cons.inj hlines
      exact hrest before l' after k s hlines

theorem SaysNothing.not_gives (h : SaysNothing line) : ¬ Gives line k s := by
  rintro ⟨left, right, hsays, -⟩
  have hempty := (says_iff.mp hsays).symm.trans (saysNothing_iff.mp h)
  simp at hempty

theorem Acceptable.exists_assigns (h : Acceptable line) (hgives : Gives line k s) :
    ∃ v, Assigns line ⟨k, v⟩ := by
  obtain hnothing | ⟨⟨k', v⟩, ha, -⟩ := h
  · exact absurd hgives hnothing.not_gives
  · obtain ⟨s', hgives', -⟩ := assigns_iff.mp ha
    obtain ⟨rfl, -⟩ := hgives.eq hgives'
    exact ⟨v, ha⟩

theorem Make.legible (h : Make lines as) : ∀ l ∈ lines, Legible l := by
  induction h with
  | nil => exact List.forall_mem_nil _
  | skip hnothing _ ih => exact List.forall_mem_cons.mpr ⟨.inl hnothing, ih⟩
  | assign ha _ ih => exact List.forall_mem_cons.mpr ⟨.inr ⟨_, ha⟩, ih⟩

theorem Make.exists_line (h : Make lines as) {a : Assignment} (ha : a ∈ as) :
    ∃ l ∈ lines, Assigns l a := by
  induction h with
  | nil => cases ha
  | skip _ _ ih =>
    obtain ⟨l, hl, hassigns⟩ := ih ha
    exact ⟨l, List.mem_cons_of_mem _ hl, hassigns⟩
  | assign hfirst _ ih =>
    obtain rfl | ha := List.mem_cons.mp ha
    · exact ⟨_, List.mem_cons_self, hfirst⟩
    · obtain ⟨l, hl, hassigns⟩ := ih ha
      exact ⟨l, List.mem_cons_of_mem _ hl, hassigns⟩

/-- The last value of each key is in its range if and only if all values that are not are
replaced. -/
theorem Make.corrected_iff (h : Make lines as) :
    (∀ k v, as.reverse.dlookup k = some v → ¬ k.Excludes (k.kind.write v)) ↔ Corrected lines := by
  induction h with
  | nil =>
    exact ⟨fun _ => corrected_nil, fun _ k v hv => by cases hv⟩
  | skip hnothing _ ih =>
    rw [corrected_cons, ih, iff_and_self]
    exact fun _ k s hgives => absurd hgives hnothing.not_gives
  | @assign line lines a as ha hrest ih =>
    have hlookup : ∀ k, (a :: as).reverse.dlookup k =
        (as.reverse.dlookup k).or ([a].dlookup k) := fun k => by
      rw [List.reverse_cons, List.dlookup_append]
    obtain ⟨s, hgives, hs⟩ := assigns_iff.mp ha
    rw [corrected_cons, ← ih]
    constructor
    · intro hall
      have hlater : ∀ k v, as.reverse.dlookup k = some v → ¬ k.Excludes (k.kind.write v) :=
        fun k v hv => hall k v (by rw [hlookup, hv, Option.some_or])
      refine ⟨fun k s' hgives' hexcludes => ?_, hlater⟩
      obtain ⟨rfl, rfl⟩ := hgives.eq hgives'
      rcases hv : as.reverse.dlookup a.1 with _ | v
      · -- The value would be the last one of its key.
        have hlast : (a :: as).reverse.dlookup a.1 = some a.2 := by
          rw [hlookup, hv, Option.none_or, List.dlookup_cons_eq]
        exact absurd ((SettingKey.excludes_iff_write hs).mp hexcludes) (hall _ _ hlast)
      · have hmem : ⟨a.1, v⟩ ∈ as := List.mem_reverse.mp (List.of_mem_dlookup hv)
        obtain ⟨l, hl, hassigns⟩ := hrest.exists_line hmem
        obtain ⟨s', hgives', -⟩ := assigns_iff.mp hassigns
        exact ⟨l, hl, .inr ⟨_, hassigns, hlater _ _ hv⟩, s', hgives'⟩
    · rintro ⟨hfirst, hlater⟩ k v hv
      rw [hlookup] at hv
      rcases hk : as.reverse.dlookup k with _ | v'
      · -- No line behind this one has the key, so the value would not be replaced.
        rw [hk, Option.none_or] at hv
        obtain rfl := List.mem_singleton.mp (List.of_mem_dlookup hv)
        intro hexcludes
        obtain ⟨l, hl, hacceptable, s', hgives'⟩ :=
          hfirst k s hgives ((SettingKey.excludes_iff_write hs).mpr hexcludes)
        obtain ⟨v', hassigns⟩ := hacceptable.exists_assigns hgives'
        have hkey : k ∈ as.keys := hrest.mem_keys_iff.mpr ⟨l, hl, v', hassigns⟩
        refine List.dlookup_eq_none.mp hk ?_
        rwa [List.keys, List.map_reverse, List.mem_reverse]
      · rw [hk, Option.some_or] at hv
        exact hlater k v (hk.trans hv)

/-- Lines mean valid settings if they can be read and the values out of range are replaced. -/
theorem exists_valid_iff :
    (∃ c : Settings, c.MeantBy lines ∧ c.validate = .ok ()) ↔
      (∀ l ∈ lines, Legible l) ∧ Corrected lines := by
  constructor
  · rintro ⟨c, ⟨as, has, hget⟩, hvalid⟩
    exact ⟨has.legible,
      has.corrected_iff.mp fun k v hv => validate_eq_ok_iff.mp hvalid k v ((hget k).trans hv)⟩
  · rintro ⟨hlegible, hcorrected⟩
    obtain ⟨as, has⟩ := exists_make hlegible
    obtain ⟨as', has', hget⟩ := meantBy_iff.mpr ⟨as, has, rfl⟩
    refine ⟨setAll {} as, ⟨as', has', hget⟩, validate_eq_ok_iff.mpr fun k v hv => ?_⟩
    exact has'.corrected_iff.mpr hcorrected k v ((hget k).symm.trans hv)

/-- A line is acceptable if a file of this line alone is accepted. -/
theorem acceptable_iff (h : '\n' ∉ line) :
    Acceptable line ↔ ∃ c, parse (textOf [line]) = .ok c := by
  simp only [parse_textOf (List.forall_mem_singleton.mpr h), exists_valid_iff,
    List.forall_mem_singleton, corrected_cons]
  constructor
  · rintro (hnothing | ⟨a, ha, hin⟩)
    · exact ⟨.inl hnothing, fun k s hgives => absurd hgives hnothing.not_gives, corrected_nil⟩
    · refine ⟨.inr ⟨a, ha⟩, fun k s hgives hexcludes => ?_, corrected_nil⟩
      obtain ⟨s', hgives', hs'⟩ := assigns_iff.mp ha
      obtain ⟨rfl, rfl⟩ := hgives.eq hgives'
      exact absurd ((SettingKey.excludes_iff_write hs').mp hexcludes) hin
  · rintro ⟨hnothing | ⟨a, ha⟩, hlast, -⟩
    · exact .inl hnothing
    · refine .inr ⟨a, ha, fun hexcludes => ?_⟩
      obtain ⟨s, hgives, hs⟩ := assigns_iff.mp ha
      obtain ⟨l, hl, -⟩ := hlast a.1 s hgives ((SettingKey.excludes_iff_write hs).mpr hexcludes)
      cases hl

/-! ## The first line out of range -/

/-- The line is the first one with the property, and this is its number. Lines are counted from
one. -/
def FirstAt (p : List Char → Prop) (lines : List (List Char)) (number : Nat) (line : List Char) :
    Prop :=
  ∃ before after, lines = before ++ line :: after ∧ before.length + 1 = number ∧ p line ∧
    ∀ l ∈ before, ¬ p l

theorem exists_firstAt {p : List Char → Prop} (h : ∃ l ∈ lines, p l) :
    ∃ number line, FirstAt p lines number line := by
  classical
  obtain ⟨l, hl, hp⟩ := h
  obtain ⟨line, hline⟩ : ∃ line, lines.find? (fun l => decide (p l)) = some line :=
    Option.isSome_iff_exists.mp (List.find?_isSome.mpr ⟨l, hl, decide_eq_true hp⟩)
  obtain ⟨hp, before, after, hlines, hbefore⟩ := List.find?_eq_some_iff_append.mp hline
  exact ⟨_, line, before, after, hlines, rfl, of_decide_eq_true hp, by simpa using hbefore⟩

theorem FirstAt.holds {p : List Char → Prop} (h : FirstAt p lines number line) : p line := by
  obtain ⟨before, after, -, -, hp, -⟩ := h
  exact hp

theorem FirstAt.line_eq {p q : List Char → Prop} {line' : List Char}
    (h : FirstAt p lines number line) (h' : FirstAt q lines number line') : line = line' := by
  obtain ⟨before, after, rfl, hnumber, -⟩ := h
  obtain ⟨before', after', hlines, hnumber', -⟩ := h'
  obtain ⟨-, htail⟩ := List.append_inj hlines (by omega)
  exact (List.cons.inj htail).1

/-- An error names a line if and only if that is the first line that cannot be read. -/
theorem names_line_iff {text : String}
    (hlines : ∀ l ∈ linesOf text.toList, Acceptable l ∨ OutOfRange l) :
    (∃ e, parse text = .error e ∧ e.line? = some number) ↔
      ∃ line, FirstAt Unfit (linesOf text.toList) number line := by
  have hnamed : ∀ {number line}, FirstAt Unfit (linesOf text.toList) number line →
      ∃ e, parse text = .error e ∧ e.line? = some number := by
    rintro number line ⟨before, after, hsplit, rfl, hline, hbefore⟩
    obtain ⟨k, fault, herror⟩ := parse_of_unfit hsplit (fun l hl =>
      legible_of_not_unfit (hlines l (hsplit ▸ List.mem_append_left _ hl)) (hbefore l hl)) hline
    exact ⟨_, herror, rfl⟩
  constructor
  · rintro ⟨e, he, hnumber⟩
    by_cases hunfit : ∃ l ∈ linesOf text.toList, Unfit l
    · obtain ⟨first, line, hfirst⟩ := exists_firstAt hunfit
      obtain ⟨e', he', hfirst'⟩ := hnamed hfirst
      rw [he, Except.error.injEq] at he'
      rw [he', hfirst', Option.some.injEq] at hnumber
      exact ⟨line, hnumber ▸ hfirst⟩
    · have hlegible : ∀ l ∈ linesOf text.toList, Legible l := fun l hl =>
        legible_of_not_unfit (hlines l hl) fun hl' => hunfit ⟨l, hl, hl'⟩
      rw [line?_of_legible hlegible he] at hnumber
      cases hnumber
  · rintro ⟨line, hfirst⟩
    exact hnamed hfirst

/-- A text is accepted if all its integers have 32 bits and the values out of range are replaced. -/
theorem accepted_iff {text : String}
    (hlines : ∀ l ∈ linesOf text.toList, Acceptable l ∨ OutOfRange l) :
    (∃ c, parse text = .ok c) ↔
      (∀ l ∈ linesOf text.toList, ¬ Unfit l) ∧ Corrected (linesOf text.toList) := by
  have hlegible : (∀ l ∈ linesOf text.toList, Legible l) ↔ ∀ l ∈ linesOf text.toList, ¬ Unfit l :=
    forall₂_congr fun l hl => ⟨fun hl' hunfit => hunfit.not_legible hl',
      legible_of_not_unfit (hlines l hl)⟩
  simp only [parse_eq_ok_iff, exists_valid_iff, hlegible]

/-- **Values out of range.** Take a text of which each line is acceptable or gives a key a value out
of its range. The error names the first line with a value out of range if and only if this is an
integer that has not 32 bits, and it names no other lines than the first with such an integer. The
text is even accepted, if and only if all integers have 32 bits and each value out of its range is
replaced by one behind it that is not. -/
theorem parse_out_of_range (text : String)
    (hlines : ∀ l ∈ linesOf text.toList, Acceptable l ∨ OutOfRange l) :
    (∀ number line, FirstAt OutOfRange (linesOf text.toList) number line →
      ((∃ e, parse text = .error e ∧ e.line? = some number) ↔ Unfit line)) ∧
    (∀ number, (∃ e, parse text = .error e ∧ e.line? = some number) ↔
      ∃ line, FirstAt Unfit (linesOf text.toList) number line) ∧
    ((∃ c, parse text = .ok c) ↔
      (∀ l ∈ linesOf text.toList, ¬ Unfit l) ∧ Corrected (linesOf text.toList)) := by
  refine ⟨fun number line hfirst => ?_, fun number => names_line_iff hlines, accepted_iff hlines⟩
  rw [names_line_iff hlines]
  constructor
  · rintro ⟨line', hunfit⟩
    rw [hfirst.line_eq hunfit]
    exact hunfit.holds
  · intro hunfit
    obtain ⟨before, after, hsplit, hnumber, -, hbefore⟩ := hfirst
    exact ⟨line, before, after, hsplit, hnumber, hunfit,
      fun l hl hl' => hbefore l hl hl'.outOfRange⟩

/-- A line whose number is too small and has 32 bits. -/
def zeroLine : List Char := "db_max_connections = 0".toList

/-- A line that can replace it. -/
def fiveLine : List Char := "db_max_connections = 5".toList

/-- A line whose number is too small and has not 32 bits. -/
def negativeLine : List Char := "db_busy_timeout_ms = -1".toList

theorem gives_zeroLine : Gives zeroLine .dbMaxConnections ['0'] :=
  ⟨"db_max_connections ".toList, " 0".toList, says_iff.mpr (by decide +kernel), by decide +kernel,
    by decide +kernel, by decide +kernel⟩

theorem isNumeral_zero : Text.IsNumeral ['0'] 0 :=
  ⟨nofun, List.forall_mem_singleton.mpr rfl, rfl⟩

theorem outOfRange_zeroLine : OutOfRange zeroLine :=
  ⟨_, _, gives_zeroLine, .number rfl (.plain isNumeral_zero) (by decide)⟩

theorem not_unfit_zeroLine : ¬ Unfit zeroLine := fun hunfit =>
  hunfit.not_legible (.inr ⟨⟨.dbMaxConnections, (0 : Nat)⟩,
    assigns_iff.mpr ⟨_, gives_zeroLine, .plain isNumeral_zero, by decide⟩⟩)

theorem acceptable_fiveLine : Acceptable fiveLine :=
  (acceptable_iff (by decide +kernel)).mpr ⟨{ dbMaxConnections := some 5 }, by decide +kernel⟩

theorem unfit_negativeLine : Unfit negativeLine :=
  ⟨.dbBusyTimeoutMs, ['-', '1'], -(1 : Nat),
    ⟨"db_busy_timeout_ms ".toList, " -1".toList, says_iff.mpr (by decide +kernel),
      by decide +kernel, by decide +kernel, by decide +kernel⟩,
    rfl, .minus ⟨nofun, List.forall_mem_singleton.mpr rfl, rfl⟩, by decide⟩

/-- The error names the second of two lines that are out of range. -/
theorem parse_out_of_range_negativeLine :
    let text := textOf [zeroLine, negativeLine, fiveLine]
    (∀ l ∈ linesOf text.toList, Acceptable l ∨ OutOfRange l) ∧
      FirstAt OutOfRange (linesOf text.toList) 1 zeroLine ∧
      (¬ ∃ e, parse text = .error e ∧ e.line? = some 1) ∧
      (∃ e, parse text = .error e ∧ e.line? = some 2) ∧ ¬ ∃ c, parse text = .ok c := by
  intro text
  have hsplit : linesOf text.toList = [zeroLine, negativeLine, fiveLine] := by decide +kernel
  have hlines : ∀ l ∈ linesOf text.toList, Acceptable l ∨ OutOfRange l := by
    simp only [hsplit, List.forall_mem_cons]
    exact ⟨.inr outOfRange_zeroLine, .inr unfit_negativeLine.outOfRange, .inl acceptable_fiveLine,
      List.forall_mem_nil _⟩
  have hfirst : FirstAt OutOfRange (linesOf text.toList) 1 zeroLine :=
    ⟨[], _, hsplit, rfl, outOfRange_zeroLine, List.forall_mem_nil _⟩
  have hunfit : FirstAt Unfit (linesOf text.toList) 2 negativeLine :=
    ⟨[zeroLine], _, hsplit, rfl, unfit_negativeLine,
      List.forall_mem_singleton.mpr not_unfit_zeroLine⟩
  obtain ⟨hnames, hunread, haccepted⟩ := parse_out_of_range text hlines
  refine ⟨hlines, hfirst, ?_, (hunread 2).mpr ⟨_, hunfit⟩, ?_⟩
  · rw [hnames 1 zeroLine hfirst]
    exact not_unfit_zeroLine
  · rw [haccepted]
    rintro ⟨hfit, -⟩
    exact hfit negativeLine (by simp [hsplit]) unfit_negativeLine

/-- A file whose first line is out of range is accepted if the second one replaces its value, and is
an error without a line if it stands alone. -/
theorem not_names_zeroLine :
    let text := textOf [zeroLine, fiveLine]
    (∀ l ∈ linesOf text.toList, Acceptable l ∨ OutOfRange l) ∧
      FirstAt OutOfRange (linesOf text.toList) 1 zeroLine ∧
      parse text = .ok { dbMaxConnections := some 5 } ∧
      (¬ ∃ e, parse text = .error e ∧ e.line? = some 1) ∧
      parse (textOf [zeroLine]) = .error (.outOfRange .dbMaxConnections 0 1 20) ∧
      (SettingsError.outOfRange .dbMaxConnections 0 1 20).line? = none := by
  intro text
  have hsplit : linesOf text.toList = [zeroLine, fiveLine] := by decide +kernel
  have hok : parse text = .ok { dbMaxConnections := some 5 } := by decide +kernel
  refine ⟨?_, ⟨[], _, hsplit, rfl, outOfRange_zeroLine, List.forall_mem_nil _⟩, hok, ?_,
    by decide +kernel, rfl⟩
  · simp only [hsplit, List.forall_mem_cons]
    exact ⟨.inr outOfRange_zeroLine, .inl acceptable_fiveLine, List.forall_mem_nil _⟩
  · rintro ⟨e, he, -⟩
    rw [hok] at he
    cases he

end Settings

end Downloads
