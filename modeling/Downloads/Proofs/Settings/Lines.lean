import Downloads.Proofs.Settings.Values
import Mathlib.Algebra.Group.Nat.Even
import Mathlib.Data.List.Count

/-!
# Lines of a settings file

A line is read up to its comment, which the first number sign after an even number of quotes starts
(`Settings.uncommented_iff`). What is left says nothing if it is blank, and else is an assignment or
an error (`Settings.readLine_eq_ok_iff`).
-/

namespace Downloads.Settings

/-! ## Comments -/

/-- What is kept of the line has no number sign after an even number of quotes. What is not kept
starts with such a number sign. -/
structure Uncommented (line kept : List Char) : Prop where
  clean : ∀ before after, kept = before ++ '#' :: after → ¬ Even (before.count '"')
  stops : line = kept ∨ ∃ comment, line = kept ++ '#' :: comment ∧ Even (kept.count '"')

/-- A quote turns from outside to inside and back, which is kept as one quote before the line. -/
theorem even_quotes_cons (inQuotes : Bool) (c : Char) (before : List Char) :
    Even (inQuotes.toNat + (c :: before).count '"') ↔
      Even ((if c = '"' then !inQuotes else inQuotes).toNat + before.count '"') := by
  by_cases hc : c = '"'
  · subst hc
    rw [if_pos rfl, List.count_cons_self]
    cases inQuotes <;> simp [Nat.even_add, Nat.even_add_one]
  · rw [if_neg hc, List.count_cons_of_ne hc]

theorem stripComment_spec (inQuotes : Bool) (line : List Char) :
    (∀ before after, stripComment inQuotes line = before ++ '#' :: after →
        ¬ Even (inQuotes.toNat + before.count '"')) ∧
      (line = stripComment inQuotes line ∨ ∃ comment,
        line = stripComment inQuotes line ++ '#' :: comment ∧
          Even (inQuotes.toNat + (stripComment inQuotes line).count '"')) := by
  induction line generalizing inQuotes with
  | nil => simp [stripComment]
  | cons c cs ih =>
    by_cases hcomment : c = '#' ∧ (!inQuotes) = true
    · obtain ⟨rfl, hquotes⟩ := hcomment
      have hquotes : inQuotes = false := by simpa using hquotes
      simp [stripComment, hquotes]
    · obtain ⟨hclean, hstops⟩ := ih (if c = '"' then !inQuotes else inQuotes)
      rw [stripComment, if_neg hcomment]
      constructor
      · rintro (_ | ⟨b, before⟩) after heq
        · obtain ⟨rfl, -⟩ := List.cons.inj heq
          have hquotes : inQuotes = true := by simpa using hcomment
          simp [hquotes]
        · obtain ⟨rfl, hrest⟩ := List.cons.inj heq
          rw [even_quotes_cons]
          exact hclean before after hrest
      · rcases hstops with heq | ⟨comment, heq, heven⟩
        · exact .inl (congrArg (c :: ·) heq)
        · refine .inr ⟨comment, congrArg (c :: ·) heq, ?_⟩
          rwa [even_quotes_cons]

theorem Uncommented.isPrefix {line kept : List Char} (h : Uncommented line kept) :
    kept <+: line := by
  rcases h.stops with rfl | ⟨comment, rfl, -⟩
  · exact List.prefix_rfl
  · exact List.prefix_append kept _

/-- What is kept does not go on behind a comment. -/
theorem Uncommented.eq_of_begins {line kept kept' : List Char} (h : Uncommented line kept)
    (h' : Uncommented line kept') (hbegins : kept <+: kept') : kept = kept' := by
  obtain ⟨_ | ⟨c, cs⟩, rfl⟩ := hbegins
  · rw [List.append_nil]
  obtain ⟨rest, hrest⟩ := h'.isPrefix
  rcases h.stops with hline | ⟨comment, hline, heven⟩
  · rw [hline, List.append_assoc] at hrest
    simp at hrest
  · rw [hline, List.append_assoc, List.append_cancel_left_eq, List.cons_append] at hrest
    obtain ⟨rfl, -⟩ := List.cons.inj hrest
    exact absurd heven (h'.clean kept cs rfl)

theorem Uncommented.eq {line kept kept' : List Char} (h : Uncommented line kept)
    (h' : Uncommented line kept') : kept = kept' := by
  rcases List.prefix_or_prefix_of_prefix h.isPrefix h'.isPrefix with hbegins | hbegins
  · exact h.eq_of_begins h' hbegins
  · exact (h'.eq_of_begins h hbegins).symm

/-- A line is kept up to its first comment. -/
theorem uncommented_iff {line kept : List Char} :
    Uncommented line kept ↔ stripComment false line = kept := by
  obtain ⟨hclean, hstops⟩ := stripComment_spec false line
  have h : Uncommented line (stripComment false line) :=
    ⟨by simpa using hclean, by simpa using hstops⟩
  exact ⟨fun hkept => h.eq hkept, fun hkept => hkept ▸ h⟩

example : stripComment false "a = \"#\" # \"".toList = "a = \"#\" ".toList := by decide

/-! ## What a line says -/

/-- The text is the line without its comment and without blanks around what is left. -/
def Says (line s : List Char) : Prop :=
  ∃ kept, Uncommented line kept ∧ Text.trimBoth Text.isBlank kept = s

/-- The line is blank, or blank up to its comment. -/
def SaysNothing (line : List Char) : Prop := Says line []

/-- The line has an equals sign; a key stands before the first one, and a text that denotes the
value behind it, both without the blanks around them. -/
def Assigns (line : List Char) (a : Assignment) : Prop :=
  ∃ left right, Says line (left ++ '=' :: right) ∧ '=' ∉ left ∧
    String.ofList (Text.trimBoth Text.isBlank left) = a.1.name ∧
    a.1.kind.Denotes (Text.trimBoth Text.isBlank right) a.2

theorem says_iff {line s : List Char} : Says line s ↔ content line = s := by
  simp only [Says, uncommented_iff, exists_eq_left', content]

theorem saysNothing_iff {line : List Char} : SaysNothing line ↔ content line = [] := says_iff

variable {c c' : Settings} {line : List Char} {a : Assignment} {number : Nat}

theorem readLine_of_saysNothing (h : SaysNothing line) : c.readLine number line = .ok c := by
  rw [readLine, saysNothing_iff.mp h]
  rfl

theorem readLine_of_assigns (h : Assigns line a) :
    c.readLine number line = .ok (c.set a.1 a.2) := by
  obtain ⟨left, right, hsays, hleft, hkey, hvalue⟩ := h
  have hcut : Text.splitOnce '=' (left ++ '=' :: right) = some (left, right) :=
    Text.splitOnce_eq_some_iff.mpr ⟨rfl, hleft⟩
  have hempty : (left ++ '=' :: right).isEmpty = false := by simp
  simp only [readLine, says_iff.mp hsays, hcut, hempty, hkey, SettingKey.ofName?_name, assign_eq,
    SettingKind.parse_eq_ok_iff.mpr hvalue]
  rfl

/-- A line leaves the settings as they are if it says nothing, puts a value under its key if it
assigns one, and is an error in all other cases. -/
theorem readLine_eq_ok_iff :
    c.readLine number line = .ok c' ↔
      SaysNothing line ∧ c' = c ∨ ∃ a, Assigns line a ∧ c' = c.set a.1 a.2 := by
  constructor
  · intro h
    unfold readLine at h
    split at h
    · rename_i hempty
      cases h
      exact .inl ⟨saysNothing_iff.mpr (List.isEmpty_iff.mp hempty), rfl⟩
    split at h
    · cases h
    rename_i left right hcut
    obtain ⟨hcontent, hleft⟩ := Text.splitOnce_eq_some_iff.mp hcut
    simp only at h
    split at h
    · cases h
    rename_i k hkey
    rw [assign_eq] at h
    rcases hvalue : k.kind.parse (Text.trimBoth Text.isBlank right) with e | v <;>
      rw [hvalue] at h <;> cases h
    exact .inr ⟨⟨k, v⟩, ⟨left, right, says_iff.mpr hcontent, hleft,
      (SettingKey.ofName?_eq_some_iff.mp hkey).symm, SettingKind.parse_eq_ok_iff.mp hvalue⟩, rfl⟩
  · rintro (⟨h, rfl⟩ | ⟨a, h, rfl⟩)
    · exact readLine_of_saysNothing h
    · exact readLine_of_assigns h

/-- A line makes one assignment at most. -/
theorem Assigns.eq {b : Assignment} (ha : Assigns line a) (hb : Assigns line b) : a = b := by
  obtain ⟨k, v⟩ := a
  obtain ⟨k', v'⟩ := b
  have hread : readLine {} 0 line = .ok (set {} k v) := readLine_of_assigns ha
  rw [readLine_of_assigns hb, Except.ok.injEq] at hread
  have hget : get (set {} k' v') k = some v := by rw [hread, get_set_self]
  by_cases hk : k = k'
  · subst hk
    rw [get_set_self, Option.some.injEq] at hget
    rw [hget]
  · rw [get_set_of_ne {} v' hk, get_empty] at hget
    cases hget

theorem SaysNothing.not_assigns (h : SaysNothing line) : ¬ Assigns line a := by
  intro ha
  have hread : readLine {} 0 line = .ok {} := readLine_of_saysNothing h
  rw [readLine_of_assigns ha, Except.ok.injEq] at hread
  have hget : get {} a.1 = some a.2 := by rw [← get_set_self {} a.1 a.2, hread]
  rw [get_empty] at hget
  cases hget

/-! ## Lines alike -/

theorem stripComment_concat (inQuotes : Bool) {c : Char} (hc : c ≠ '#') (line : List Char) :
    stripComment inQuotes (line ++ [c]) = stripComment inQuotes line ∨
      stripComment inQuotes (line ++ [c]) = stripComment inQuotes line ++ [c] := by
  induction line generalizing inQuotes with
  | nil => simp [stripComment, hc]
  | cons a line ih =>
    simp only [List.cons_append, stripComment]
    split
    · exact .inl rfl
    · exact (ih _).imp (congrArg _) (congrArg _)

/-- A blank at the end of a line does not matter. -/
theorem content_concat {c : Char} (hc : Text.isBlank c = true) (line : List Char) :
    content (line ++ [c]) = content line := by
  have hsign : c ≠ '#' := by
    rintro rfl
    cases hc
  rcases stripComment_concat false hsign line with h | h
  · rw [content, h, content]
  · rw [content, h, content]
    show Text.trimBoth Text.isBlank ([] ++ stripComment false line ++ [c]) = _
    exact Text.trimBoth_append _ (by simp) (by simpa using hc)

theorem content_dropReturn (line : List Char) : content (dropReturn line) = content line := by
  unfold dropReturn
  split
  · rename_i hlast
    obtain ⟨init, rfl⟩ := List.getLast?_eq_some_iff.mp hlast
    rw [List.dropLast_concat, content_concat (by decide)]
  · rfl

/-! ## Lines written -/

/-- The line that assigns a value. -/
def lineOf (a : Assignment) : List Char := a.1.name.toList ++ " = ".toList ++ a.1.kind.write a.2

/-- Characters that are neither quotes nor, outside of quotes, number signs are kept. -/
theorem stripComment_append {inQuotes : Bool} {s : List Char} (hquote : '"' ∉ s)
    (hsign : inQuotes = true ∨ '#' ∉ s) (rest : List Char) :
    stripComment inQuotes (s ++ rest) = s ++ stripComment inQuotes rest := by
  induction s with
  | nil => rfl
  | cons c s ih =>
    rw [List.mem_cons, not_or] at hquote
    have hc : ¬ (c = '#' ∧ (!inQuotes) = true) := by
      rintro ⟨rfl, hout⟩
      rcases hsign with hsign | hsign
      · simp [hsign] at hout
      · exact hsign List.mem_cons_self
    have hrest : inQuotes = true ∨ '#' ∉ s := hsign.imp_right fun h hmem =>
      h (List.mem_cons_of_mem c hmem)
    rw [List.cons_append, stripComment, if_neg hc, if_neg (Ne.symm hquote.1), ih hquote.2 hrest,
      List.cons_append]

/-- Keys are written without any blanks and signs. -/
theorem isBare_of_mem_name (k : SettingKey) : ∀ c ∈ k.name.toList, isBare c = true :=
  List.all_eq_true.mp (by cases k <;> decide)

theorem name_ne_nil (k : SettingKey) : k.name.toList ≠ [] := by cases k <;> decide

/-- No comment starts in a value that is written. -/
theorem stripComment_write {kind : SettingKind} {v : kind.Value} (h : kind.Plain v) :
    stripComment false (kind.write v) = kind.write v := by
  rcases SettingKind.write_cases h with ⟨t, ht, hquote, -⟩ | ⟨-, hall⟩
  · have hinside : stripComment true (t.toList ++ ['"']) = t.toList ++ ['"'] :=
      stripComment_append hquote (.inl rfl) ['"']
    rw [ht, SettingKind.quote, stripComment, if_neg (by decide), if_pos rfl, Bool.not_false,
      hinside]
  · have hquote : '"' ∉ kind.write v := fun hmem => by cases hall '"' hmem
    have hsign : '#' ∉ kind.write v := fun hmem => by cases hall '#' hmem
    have hwhole : stripComment false (kind.write v ++ []) = kind.write v ++ [] :=
      stripComment_append hquote (.inr hsign) []
    rwa [List.append_nil] at hwhole

/-- No blanks stand around a value that is written. -/
theorem write_ends {kind : SettingKind} {v : kind.Value} (h : kind.Plain v) :
    kind.write v ≠ [] ∧ (∀ c ∈ (kind.write v).head?, Text.isBlank c = false) ∧
      ∀ c ∈ (kind.write v).getLast?, Text.isBlank c = false := by
  have hquote : Text.isBlank '"' = false := by decide
  rcases SettingKind.write_cases h with ⟨t, ht, -⟩ | ⟨hne, hall⟩
  · rw [ht, SettingKind.quote]
    refine ⟨List.cons_ne_nil _ _, by simpa using hquote, fun c hc => ?_⟩
    rw [← List.cons_append, List.getLast?_concat, Option.mem_some_iff] at hc
    exact hc ▸ hquote
  · refine ⟨hne, fun c hc => ?_, fun c hc => ?_⟩
    · exact isBlank_of_isBare (hall c (List.mem_of_mem_head? hc))
    · exact isBlank_of_isBare (hall c (List.mem_of_mem_getLast? hc))

/-- All of a line that is written is content. -/
theorem content_lineOf (h : a.1.kind.Plain a.2) : content (lineOf a) = lineOf a := by
  obtain ⟨hne, -, hlast⟩ := write_ends h
  have hequals : ∀ c ∈ " = ".toList, c ≠ '"' ∧ c ≠ '#' := by simp
  have hkey : ∀ c ∈ a.1.name.toList ++ " = ".toList, c ≠ '"' ∧ c ≠ '#' := by
    intro c hc
    rcases List.mem_append.mp hc with hc | hc
    · have hbare := isBare_of_mem_name a.1 c hc
      constructor <;> rintro rfl <;> cases hbare
    · exact hequals c hc
  have hstrip : stripComment false (lineOf a) = lineOf a := by
    rw [lineOf, stripComment_append (fun hmem => (hkey _ hmem).1 rfl)
      (.inr fun hmem => (hkey _ hmem).2 rfl), stripComment_write h]
  rw [content, hstrip]
  apply Text.trimBoth_of_ends
  · intro c hc
    rw [lineOf, List.append_assoc, List.head?_append_of_ne_nil _ (name_ne_nil a.1)] at hc
    exact isBlank_of_isBare (isBare_of_mem_name a.1 c (List.mem_of_mem_head? hc))
  · intro c hc
    rw [lineOf, List.getLast?_append_of_ne_nil _ hne] at hc
    exact hlast c hc

/-- A line that is written for an assignment makes it. -/
theorem assigns_lineOf (h : a.1.kind.Plain a.2) (hfits : a.1.kind.Fits a.2) :
    Assigns (lineOf a) a := by
  have hblank : ∀ c ∈ [' '], Text.isBlank c = true := List.forall_mem_singleton.mpr (by decide)
  have hnone : ∀ c ∈ ([] : List Char), Text.isBlank c = true := List.forall_mem_nil _
  obtain ⟨-, hfirst, hlast⟩ := write_ends h
  refine ⟨[] ++ a.1.name.toList ++ [' '], [' '] ++ a.1.kind.write a.2 ++ [], ?_, ?_, ?_, ?_⟩
  · rw [says_iff, content_lineOf h]
    simp [lineOf]
  · intro hmem
    rcases List.mem_append.mp hmem with hmem | hmem
    · cases isBare_of_mem_name a.1 _ hmem
    · cases List.mem_singleton.mp hmem
  · have hname : ∀ c ∈ a.1.name.toList, Text.isBlank c = false := fun c hc =>
      isBlank_of_isBare (isBare_of_mem_name a.1 c hc)
    rw [Text.trimBoth_append _ hnone hblank,
      Text.trimBoth_of_ends (fun c hc => hname c (List.mem_of_mem_head? hc))
        fun c hc => hname c (List.mem_of_mem_getLast? hc), String.ofList_toList]
  · rw [Text.trimBoth_append _ hblank hnone, Text.trimBoth_of_ends hfirst hlast]
    exact SettingKind.denotes_write hfits

theorem newline_notMem_lineOf (h : a.1.kind.Plain a.2) : '\n' ∉ lineOf a := by
  intro hmem
  rw [lineOf, List.mem_append, List.mem_append] at hmem
  rcases hmem with (hmem | hmem) | hmem
  · cases isBare_of_mem_name a.1 _ hmem
  · revert hmem
    decide
  · rcases SettingKind.write_cases h with ⟨t, ht, -, hnewline⟩ | ⟨-, hall⟩
    · rw [ht, SettingKind.quote] at hmem
      simp [hnewline] at hmem
    · cases hall _ hmem

end Downloads.Settings
