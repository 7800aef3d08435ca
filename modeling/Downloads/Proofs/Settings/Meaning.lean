import Downloads.Proofs.Settings.Lines
import Mathlib.Data.List.Induction
import Mathlib.Data.List.Sigma

/-!
# What a settings file means

The lines of a file make assignments, one after the other, and the last assignment of a key counts
(`Settings.parse_eq_ok_iff`). So lines that say nothing can stand anywhere, lines with different
keys can change places as long as each key keeps its last assignment, and settings are read back
from the lines that are written for them (`Settings.meaning`).
-/

namespace Downloads.Settings

/-! ## Assignments of lines -/

/-- The lines make the assignments, one after the other. -/
inductive Make : List (List Char) → List Assignment → Prop
  | nil : Make [] []
  | skip {line lines as} (h : SaysNothing line) (rest : Make lines as) : Make (line :: lines) as
  | assign {line lines a as} (h : Assigns line a) (rest : Make lines as) :
    Make (line :: lines) (a :: as)

/-- The settings give each key the value of its last assignment in the lines, and no other. -/
def MeantBy (c : Settings) (lines : List (List Char)) : Prop :=
  ∃ as, Make lines as ∧ ∀ k, c.get k = as.reverse.dlookup k

/-- A line gives the key a value. -/
def GivenIn (k : SettingKey) (lines : List (List Char)) : Prop :=
  ∃ line ∈ lines, ∃ v, Assigns line ⟨k, v⟩

variable {c c' : Settings} {lines lines' xs ys : List (List Char)} {line : List Char}
  {a : Assignment} {as : List Assignment}

theorem make_nil_iff : Make [] as ↔ as = [] :=
  ⟨fun h => by cases h; rfl, fun h => h ▸ .nil⟩

theorem make_cons_of_saysNothing (h : SaysNothing line) :
    Make (line :: lines) as ↔ Make lines as := by
  constructor
  · rintro (_ | ⟨-, hrest⟩ | ⟨ha, -⟩)
    · exact hrest
    · exact absurd ha h.not_assigns
  · exact .skip h

theorem make_cons_of_assigns (h : Assigns line a) :
    Make (line :: lines) as ↔ ∃ rest, as = a :: rest ∧ Make lines rest := by
  constructor
  · rintro (_ | ⟨hnothing, -⟩ | ⟨ha, hrest⟩)
    · exact absurd h hnothing.not_assigns
    · exact ⟨_, by rw [ha.eq h], hrest⟩
  · rintro ⟨rest, rfl, hrest⟩
    exact .assign h hrest

theorem make_append_iff :
    Make (xs ++ ys) as ↔ ∃ as₁ as₂, as = as₁ ++ as₂ ∧ Make xs as₁ ∧ Make ys as₂ := by
  constructor
  · intro h
    induction xs generalizing as with
    | nil => exact ⟨[], as, rfl, .nil, h⟩
    | cons line xs ih =>
      rw [List.cons_append] at h
      rcases h with _ | ⟨hnothing, hrest⟩ | ⟨ha, hrest⟩
      · obtain ⟨as₁, as₂, rfl, hxs, hys⟩ := ih hrest
        exact ⟨as₁, as₂, rfl, .skip hnothing hxs, hys⟩
      · obtain ⟨as₁, as₂, rfl, hxs, hys⟩ := ih hrest
        exact ⟨_ :: as₁, as₂, rfl, .assign ha hxs, hys⟩
  · rintro ⟨as₁, as₂, rfl, hxs, hys⟩
    induction hxs with
    | nil => exact hys
    | skip hnothing _ ih => exact .skip hnothing ih
    | assign ha _ ih => exact .assign ha ih

/-- Lines make the assignments of which their contents speak. -/
theorem Make.congr (h : Make lines as) (hcontent : lines.map content = lines'.map content) :
    Make lines' as := by
  induction h generalizing lines' with
  | nil =>
    rw [List.map_nil, eq_comm, List.map_eq_nil_iff] at hcontent
    exact hcontent ▸ .nil
  | skip hnothing _ ih =>
    rw [List.map_cons, eq_comm, List.map_eq_cons_iff] at hcontent
    obtain ⟨line', rest', rfl, hline, hrest⟩ := hcontent
    exact .skip (saysNothing_iff.mpr (hline.trans (saysNothing_iff.mp hnothing))) (ih hrest.symm)
  | assign ha _ ih =>
    rw [List.map_cons, eq_comm, List.map_eq_cons_iff] at hcontent
    obtain ⟨line', rest', rfl, hline, hrest⟩ := hcontent
    obtain ⟨left, right, hsays, hassigns⟩ := ha
    exact .assign ⟨left, right, says_iff.mpr (hline.trans (says_iff.mp hsays)), hassigns⟩
      (ih hrest.symm)

theorem givenIn_cons {k : SettingKey} :
    GivenIn k (line :: lines) ↔ (∃ v, Assigns line ⟨k, v⟩) ∨ GivenIn k lines := by
  simp only [GivenIn, List.mem_cons, exists_eq_or_imp]

/-- A key is assigned if and only if a line gives it a value. -/
theorem Make.mem_keys_iff (h : Make lines as) {k : SettingKey} : k ∈ as.keys ↔ GivenIn k lines := by
  induction h with
  | nil => simp [GivenIn]
  | skip hnothing _ ih =>
    rw [givenIn_cons, ih, or_iff_right]
    rintro ⟨v, hv⟩
    exact hnothing.not_assigns hv
  | @assign line lines a as ha _ ih =>
    have hline : k = a.1 ↔ ∃ v, Assigns line ⟨k, v⟩ := by
      constructor
      · rintro rfl
        exact ⟨a.2, ha⟩
      · rintro ⟨v, hv⟩
        rw [ha.eq hv]
    rw [givenIn_cons, List.keys_cons, List.mem_cons, ih, hline]

/-! ## Settings of assignments -/

/-- The settings after assignments. -/
def setAll (c : Settings) (as : List Assignment) : Settings := as.foldl (fun c a => c.set a.1 a.2) c

/-- The last assignment of a key counts. -/
theorem get_setAll (c : Settings) (as : List Assignment) (k : SettingKey) :
    (c.setAll as).get k = (as.reverse.dlookup k).or (c.get k) := by
  induction as using List.reverseRecOn with
  | nil => rfl
  | append_singleton as a ih =>
    have hset : c.setAll (as ++ [a]) = (c.setAll as).set a.1 a.2 := by
      simp only [setAll, List.foldl_append, List.foldl_cons, List.foldl_nil]
    rw [hset, List.reverse_concat]
    by_cases hk : k = a.1
    · subst hk
      rw [get_set_self, List.dlookup_cons_eq, Option.some_or]
    · rw [get_set_of_ne _ _ hk, ih, List.dlookup_cons_ne _ _ hk]

theorem readLines_eq_ok_iff {number : Nat} :
    c.readLines number lines = .ok c' ↔ ∃ as, Make lines as ∧ c' = c.setAll as := by
  induction lines generalizing c number with
  | nil => simp [readLines, make_nil_iff, setAll, eq_comm]
  | cons line lines ih =>
    have hbind : c.readLines number (line :: lines) = .ok c' ↔
        ∃ c₁, c.readLine number line = .ok c₁ ∧ c₁.readLines (number + 1) lines = .ok c' := by
      rw [readLines]
      cases c.readLine number line <;> simp [bind, Except.bind]
    rw [hbind]
    constructor
    · rintro ⟨c₁, hline, hlines⟩
      obtain ⟨as, hmake, rfl⟩ := ih.mp hlines
      rcases readLine_eq_ok_iff.mp hline with ⟨hnothing, rfl⟩ | ⟨a, ha, rfl⟩
      · exact ⟨as, .skip hnothing hmake, rfl⟩
      · exact ⟨a :: as, .assign ha hmake, rfl⟩
    · rintro ⟨as, _ | ⟨hnothing, hmake⟩ | ⟨ha, hmake⟩, rfl⟩
      · exact ⟨c, readLine_of_saysNothing hnothing, ih.mpr ⟨as, hmake, rfl⟩⟩
      · exact ⟨_, readLine_of_assigns ha, ih.mpr ⟨_, hmake, rfl⟩⟩

theorem meantBy_iff : c.MeantBy lines ↔ ∃ as, Make lines as ∧ c = setAll {} as := by
  have hempty : ∀ (as : List Assignment) k, (setAll {} as).get k = as.reverse.dlookup k := by
    intro as k
    rw [get_setAll, get_empty, Option.or_none]
  refine exists_congr fun as => and_congr_right fun _ => ?_
  constructor
  · exact fun h => ext_get fun k => by rw [h k, hempty]
  · rintro rfl
    exact hempty as

/-- Settings are read of a text if and only if its lines mean them and they are valid. -/
theorem parse_eq_ok_iff {text : String} :
    parse text = .ok c ↔ c.MeantBy (linesOf text.toList) ∧ c.validate = .ok () := by
  rw [meantBy_iff, ← readLines_eq_ok_iff, parse]
  rcases readLines {} 1 (linesOf text.toList) with e | c₁
  · simp [bind, Except.bind]
  · show (c₁.validate.bind fun _ => .ok c₁) = .ok c ↔ _
    rw [Except.ok.injEq]
    constructor
    · intro h
      rcases hvalid : c₁.validate with e | ⟨⟩ <;> rw [hvalid] at h <;> cases h
      exact ⟨rfl, hvalid⟩
    · rintro ⟨rfl, hvalid⟩
      rw [hvalid]
      rfl

/-! ## Texts of lines -/

/-- The text of which these are the lines. -/
def textOf (lines : List (List Char)) : String := String.ofList (List.intercalate ['\n'] lines)

theorem meantBy_congr (h : lines.map content = lines'.map content) :
    c.MeantBy lines ↔ c.MeantBy lines' :=
  exists_congr fun _ => and_congr_left fun _ => ⟨fun hmake => hmake.congr h,
    fun hmake => hmake.congr h.symm⟩

/-- A line that says nothing can stand anywhere. -/
theorem meantBy_insert (h : SaysNothing line) :
    c.MeantBy (xs ++ line :: ys) ↔ c.MeantBy (xs ++ ys) := by
  simp only [MeantBy, make_append_iff, make_cons_of_saysNothing h]

/-- The lines of a text mean what the lines mean of which it is made: carriage returns at their ends
are blanks, and an empty last line says nothing. -/
theorem meantBy_linesOf_textOf (h : ∀ line ∈ lines, '\n' ∉ line) :
    c.MeantBy (linesOf (textOf lines).toList) ↔ c.MeantBy lines := by
  rcases List.eq_nil_or_concat lines with rfl | ⟨init, last, rfl⟩
  · rfl
  rw [List.concat_eq_append] at h ⊢
  have hsplit : Text.splitAt (· == '\n') (textOf (init ++ [last])).toList = init ++ [last] := by
    rw [textOf, String.toList_ofList, Text.splitAt_eq_splitOnP]
    exact List.splitOn_intercalate '\n' h (by simp)
  have hlines : linesOf (textOf (init ++ [last])).toList =
      init.map dropReturn ++ if last.isEmpty then [] else [last] := by
    simp only [linesOf, hsplit, List.reverse_append, List.reverse_cons, List.reverse_nil,
      List.nil_append, List.singleton_append, List.reverse_reverse]
  have hreturns : (init.map dropReturn).map content = init.map content := by
    rw [List.map_map]
    exact List.map_congr_left fun line _ => content_dropReturn line
  rw [hlines]
  split
  · rename_i hlast
    have hnothing : SaysNothing last := by
      rw [List.isEmpty_iff.mp hlast, saysNothing_iff]
      rfl
    rw [meantBy_insert hnothing]
    exact meantBy_congr (by simp [hreturns])
  · exact meantBy_congr (by simp [hreturns])

theorem parse_textOf (h : ∀ line ∈ lines, '\n' ∉ line) :
    parse (textOf lines) = .ok c ↔ c.MeantBy lines ∧ c.validate = .ok () := by
  rw [parse_eq_ok_iff, meantBy_linesOf_textOf h]

/-! ## Exchanging lines -/

/-- If each of two keys keeps its last assignment, no key loses it when the two change places. -/
theorem dlookup_exchange {a b : Assignment} (hne : a.1 ≠ b.1) (as bs cs : List Assignment)
    (hbetween : ∀ k ∈ [a.1, b.1], k ∈ bs.keys → k ∈ cs.keys) (k : SettingKey) :
    (as ++ b :: bs ++ a :: cs).reverse.dlookup k =
      (as ++ a :: bs ++ b :: cs).reverse.dlookup k := by
  simp only [List.reverse_append, List.reverse_cons, List.append_assoc, List.dlookup_append]
  have hkeys : ∀ as : List Assignment, as.reverse.dlookup k = none ↔ k ∉ as.keys := by
    intro as
    simp [List.dlookup_eq_none, List.keys]
  rcases hcs : cs.reverse.dlookup k with _ | v
  · have hbs : k ∈ [a.1, b.1] → bs.reverse.dlookup k = none := by
      intro hk
      rw [hkeys] at hcs ⊢
      exact fun hmem => hcs (hbetween k hk hmem)
    by_cases hka : k = a.1
    · subst hka
      simp [hbs, List.dlookup_cons_ne _ _ hne]
    · by_cases hkb : k = b.1
      · subst hkb
        simp [hbs, List.dlookup_cons_ne _ _ hka]
      · simp [List.dlookup_cons_ne _ _ hka, List.dlookup_cons_ne _ _ hkb]
  · simp

theorem MeantBy.exchange {x y : List Char} {zs : List (List Char)} {a b : Assignment}
    (h : c.MeantBy (xs ++ x :: ys ++ y :: zs)) (hx : Assigns x a) (hy : Assigns y b)
    (hne : a.1 ≠ b.1) (hbetween : ∀ k ∈ [a.1, b.1], GivenIn k ys → GivenIn k zs) :
    c.MeantBy (xs ++ y :: ys ++ x :: zs) := by
  obtain ⟨all, hmake, hget⟩ := h
  simp only [make_append_iff, make_cons_of_assigns hx, make_cons_of_assigns hy] at hmake
  obtain ⟨_, _, rfl, ⟨as, _, rfl, has, bs, rfl, hbs⟩, cs, rfl, hcs⟩ := hmake
  refine ⟨as ++ b :: bs ++ a :: cs, ?_, fun k => ?_⟩
  · simp only [make_append_iff, make_cons_of_assigns hx, make_cons_of_assigns hy]
    exact ⟨_, _, rfl, ⟨as, _, rfl, has, bs, rfl, hbs⟩, cs, rfl, hcs⟩
  · rw [hget k, dlookup_exchange hne as bs cs ?_ k]
    intro k hk hmem
    exact hcs.mem_keys_iff.mpr (hbetween k hk (hbs.mem_keys_iff.mp hmem))

/-! ## Written lines -/

theorem make_map_lineOf (h : ∀ a ∈ as, a.1.kind.Plain a.2 ∧ a.1.kind.Fits a.2) :
    Make (as.map lineOf) as := by
  induction as with
  | nil => exact .nil
  | cons a as ih =>
    rw [List.forall_mem_cons] at h
    exact .assign (assigns_lineOf h.1.1 h.1.2) (ih h.2)

/-- Settings are meant by a line for each of their values. -/
theorem meantBy_map_lineOf (hvalid : c.validate = .ok ())
    (hplain : ∀ a ∈ c.assignments, a.1.kind.Plain a.2) (has : as.Perm c.assignments) :
    c.MeantBy (as.map lineOf) := by
  have hmem : ∀ k v, ⟨k, v⟩ ∈ as ↔ c.get k = some v := fun k v =>
    has.mem_iff.trans mem_assignments
  refine ⟨as, make_map_lineOf fun a ha => ?_, fun k => ?_⟩
  · exact ⟨hplain a (has.mem_iff.mp ha), fits_of_validate hvalid ((hmem a.1 a.2).mp ha)⟩
  · rcases hv : as.reverse.dlookup k with _ | v
    · rw [List.dlookup_eq_none] at hv
      rw [Option.eq_none_iff_forall_ne_some]
      intro v hget
      exact hv (List.mem_keys_of_mem (List.mem_reverse.mpr ((hmem k v).mpr hget)))
    · exact (hmem k v).mp (List.mem_reverse.mp (List.of_mem_dlookup hv))

/-! ## Files -/

/-- **The meaning of a file.** A text is accepted if and only if each of its lines says nothing or
assigns a key a value, and the settings that give each key the value of its last assignment are
valid; these are the settings that are read. So a line that says nothing can be added to the lines
of a text, or left out, wherever it stands. Two lines that assign different keys can change places
in a text that is accepted, unless a line between them assigns one of the two keys, and none after
them assigns that key again. Settings that are valid are read back from a line for each of their
values, in whatever order, if no text among them has a quote or a newline in it. -/
theorem meaning :
    (∀ text c, parse text = .ok c ↔ c.MeantBy (linesOf text.toList) ∧ c.validate = .ok ()) ∧
      (∀ xs line ys c, (∀ l ∈ xs ++ line :: ys, '\n' ∉ l) → SaysNothing line →
        (parse (textOf (xs ++ line :: ys)) = .ok c ↔ parse (textOf (xs ++ ys)) = .ok c)) ∧
      (∀ xs x ys y zs a b c, (∀ l ∈ xs ++ x :: ys ++ y :: zs, '\n' ∉ l) → Assigns x a →
        Assigns y b → a.1 ≠ b.1 → (∀ k ∈ [a.1, b.1], GivenIn k ys → GivenIn k zs) →
        parse (textOf (xs ++ x :: ys ++ y :: zs)) = .ok c →
        parse (textOf (xs ++ y :: ys ++ x :: zs)) = .ok c) ∧
      ∀ (c : Settings) (as : List Assignment), c.validate = .ok () →
        (∀ a ∈ c.assignments, a.1.kind.Plain a.2) → as.Perm c.assignments →
        ∀ last ∈ [[], [[]]], parse (textOf (as.map lineOf ++ last)) = .ok c := by
  refine ⟨fun text c => parse_eq_ok_iff, ?_, ?_, ?_⟩
  · intro xs line ys c hlines hnothing
    have hrest : ∀ l ∈ xs ++ ys, '\n' ∉ l := by
      rw [List.forall_mem_append, List.forall_mem_cons] at hlines
      exact List.forall_mem_append.mpr ⟨hlines.1, hlines.2.2⟩
    rw [parse_textOf hlines, parse_textOf hrest, meantBy_insert hnothing]
  · intro xs x ys y zs a b c hlines hx hy hne hbetween hparse
    have hlines' : ∀ l ∈ xs ++ y :: ys ++ x :: zs, '\n' ∉ l := by
      simp only [List.forall_mem_append, List.forall_mem_cons] at hlines ⊢
      obtain ⟨⟨hxs, hx, hys⟩, hy, hzs⟩ := hlines
      exact ⟨⟨hxs, hy, hys⟩, hx, hzs⟩
    rw [parse_textOf hlines] at hparse
    rw [parse_textOf hlines']
    exact ⟨hparse.1.exchange hx hy hne hbetween, hparse.2⟩
  · intro c as hvalid hplain has last hlast
    have hmeant : c.MeantBy (as.map lineOf) := meantBy_map_lineOf hvalid hplain has
    have hlines : ∀ l ∈ as.map lineOf, '\n' ∉ l := by
      intro l hl
      obtain ⟨a, ha, rfl⟩ := List.mem_map.mp hl
      exact newline_notMem_lineOf (hplain a (has.mem_iff.mp ha))
    have hnothing : SaysNothing [] := saysNothing_iff.mpr rfl
    rw [List.mem_pair] at hlast
    rcases hlast with rfl | rfl
    · rw [List.append_nil, parse_textOf hlines]
      exact ⟨hmeant, hvalid⟩
    · have hended : ∀ l ∈ as.map lineOf ++ [[]], '\n' ∉ l := by
        intro l hl
        rcases List.mem_append.mp hl with hl | hl
        · exact hlines l hl
        · rw [List.mem_singleton.mp hl]
          exact List.not_mem_nil
      rw [parse_textOf hended, meantBy_insert hnothing, List.append_nil]
      exact ⟨hmeant, hvalid⟩

/-- Settings with texts that hold signs of the format. -/
def quotedSettings : Settings where
  dbPath := some "a b"
  retryBaseDelaySecs := some 60
  rootTitle := some "#=\r"

/-- The values of these settings, in some order. -/
def quotedValues : List Assignment :=
  [⟨.rootTitle, "#=\r"⟩, ⟨.dbPath, "a b"⟩, ⟨.retryBaseDelaySecs, (60 : Nat)⟩]

theorem meaning_quotedSettings :
    MeantBy { rootTitle := some "#" } (linesOf "root_title=\"a\"#\n root_title =\"#\"\n".toList) ∧
      parse (textOf (quotedValues.map lineOf)) = .ok quotedSettings ∧
      parse (textOf ("# \"".toList :: quotedValues.map lineOf)) = .ok quotedSettings ∧
      parse (textOf (quotedValues.reverse.map lineOf)) = .ok quotedSettings := by
  obtain ⟨hmeaning, hinsert, hexchange, hwritten⟩ := meaning
  have hfile := (hmeaning "root_title=\"a\"#\n root_title =\"#\"\n" { rootTitle := some "#" }).mp
    (by decide +kernel)
  have hparse := hwritten quotedSettings quotedValues (by decide +kernel) (by decide +kernel)
    (by decide +kernel) [] (by simp)
  rw [List.append_nil] at hparse
  have hlines : ∀ l ∈ quotedValues.map lineOf, '\n' ∉ l := by decide +kernel
  refine ⟨hfile.1, hparse, ?_, ?_⟩
  · have hnothing : SaysNothing "# \"".toList := saysNothing_iff.mpr (by decide)
    refine (hinsert [] _ _ _ ?_ hnothing).mpr hparse
    exact List.forall_mem_cons.mpr ⟨by decide, hlines⟩
  · have htitle : Assigns (lineOf ⟨.rootTitle, "#=\r"⟩) ⟨.rootTitle, "#=\r"⟩ :=
      assigns_lineOf (by decide +kernel) trivial
    have hpath : Assigns (lineOf ⟨.dbPath, "a b"⟩) ⟨.dbPath, "a b"⟩ :=
      assigns_lineOf (by decide +kernel) trivial
    have hdelay : Assigns (lineOf ⟨.retryBaseDelaySecs, (60 : Nat)⟩)
        ⟨.retryBaseDelaySecs, (60 : Nat)⟩ :=
      assigns_lineOf trivial (show (60 : Int) ≤ maxNumber by decide)
    refine hexchange [] _ [lineOf ⟨.dbPath, "a b"⟩] _ [] _ _ _ hlines htitle hdelay nofun ?_ hparse
    -- The line between the two gives no value to their keys.
    intro k hk hgiven
    rcases givenIn_cons.mp hgiven with ⟨v, hv⟩ | ⟨_, hmem, _⟩
    · obtain rfl : k = .dbPath := congrArg Sigma.fst (hv.eq hpath)
      exact absurd hk (by decide)
    · cases hmem

/-- Lines with different keys cannot always change places: a line between them can assign one of the
two keys, and its value then counts or does not. -/
theorem not_parse_exchange :
    ¬ ∀ xs x ys y zs a b c, (∀ l ∈ xs ++ x :: ys ++ y :: zs, '\n' ∉ l) → Assigns x a →
      Assigns y b → a.1 ≠ b.1 → parse (textOf (xs ++ x :: ys ++ y :: zs)) = .ok c →
      parse (textOf (xs ++ y :: ys ++ x :: zs)) = .ok c := by
  intro h
  let c : Settings := { dbMaxConnections := some 2, dbBusyTimeoutMs := some 3 }
  let x : Assignment := ⟨.dbMaxConnections, (1 : Nat)⟩
  let y : Assignment := ⟨.dbBusyTimeoutMs, (3 : Nat)⟩
  have hx : Assigns (lineOf x) x := assigns_lineOf trivial (show (1 : Int) ≤ maxNumber by decide)
  have hy : Assigns (lineOf y) y := assigns_lineOf trivial (show (3 : Int) ≤ maxNumber by decide)
  have hexchanged := h [] _ ["db_max_connections = 2".toList] _ [] _ _ c (by decide +kernel) hx hy
    nofun (by decide +kernel)
  revert hexchanged
  decide +kernel

end Downloads.Settings
