import Downloads.Proofs.Record.Reading
import Mathlib.Algebra.Group.Int.Defs

/-!
# Rows that are records

A record is built by reading one column after the other, and the first unusable one is the error.
What makes a column unusable can be told from its own value (`Column.fault?`). A reading that fails
with the first fault of a list of columns, and only then, `Scans` them. Scans are put together as
the reading is, column by column, and that of a whole snapshot says which snapshots are records,
which error the others give, and that nothing else in a snapshot matters
(`Record.build_accepts`).
-/

namespace Downloads

/-! ## Known codes -/

theorem isSome_find?_code {α : Type} (all : List α) (hall : ∀ a, a ∈ all) (code : α → Int)
    (n : Int) : (all.find? fun a => code a == n).isSome = true ↔ ∃ a, code a = n := by
  rw [List.find?_isSome]
  exact exists_congr fun a => by simp [hall a]

theorem Destination.isSome_ofCode? (n : Int) :
    (ofCode? n).isSome = true ↔ ∃ d : Destination, d.code = n :=
  isSome_find?_code all (fun d => by cases d <;> decide) code n

theorem Control.isSome_ofCode? (n : Int) :
    (ofCode? n).isSome = true ↔ ∃ c : Control, c.code = n :=
  isSome_find?_code all (fun c => by cases c <;> decide) code n

theorem Visibility.isSome_ofCode? (n : Int) :
    (ofCode? n).isSome = true ↔ ∃ v : Visibility, v.code = n :=
  isSome_find?_code all (fun v => by cases v <;> decide) code n

theorem Status.storable_of_mem_plain {st : Status} (h : st ∈ plain) : st.Storable := by
  apply storable_of_not_failed
  rintro c rfl
  simp [plain] at h

theorem Status.isSome_ofCode? (n : Int) :
    (ofCode? n).isSome = true ↔ ∃ st : Status, st.Storable ∧ st.code = n := by
  constructor
  · intro h
    unfold ofCode? at h
    split_ifs at h with h0 h1 h2 h3 h4 hf
    · exact ⟨.notStarted, storable_of_mem_plain (by decide), h0.symm⟩
    · exact ⟨.pending, storable_of_mem_plain (by decide), h1.symm⟩
    · exact ⟨.running, storable_of_mem_plain (by decide), h2.symm⟩
    · exact ⟨.runningPaused, storable_of_mem_plain (by decide), h3.symm⟩
    · exact ⟨.success, storable_of_mem_plain (by decide), h4.symm⟩
    · have hn : ((UInt16.ofNat n.toNat).toNat : Int) = n := by
        simp only [isFailureCode, Bool.and_eq_true, decide_eq_true_eq] at hf
        have hlt : n.toNat < UInt16.size := by
          show n.toNat < 65536
          omega
        rw [UInt16.toNat_ofNat_of_lt' hlt]
        omega
      exact ⟨.failed (UInt16.ofNat n.toNat), storable_failed (by rw [hn]; exact hf), hn⟩
    · cases h
  · rintro ⟨st, hst, rfl⟩
    rw [ofCode?_code hst]
    rfl

/-! ## What a column has to hold -/

/-- The columns of a record, in the order in which they are read, which is that of the schema. -/
def Record.columns : List Column := Column.all.erase .completionNotified

namespace Column

/-- What a record needs in a column. An absent column has no value. -/
def Admits (v : Option FieldValue) : Column → Prop
  | .id | .retryRedirect | .lastModifiedMs | .totalBytes | .currentBytes | .mediaScanned =>
    ∃ n, v = some (.integer n)
  | .uri => ∃ s, v = some (.text s)
  | .destination => ∃ d : Destination, v = some (.integer d.code)
  | .control => ∃ c : Control, v = some (.integer c.code)
  | .status => ∃ st : Status, st.Storable ∧ v = some (.integer st.code)
  | .visibility => ∃ w : Visibility, v = some (.integer w.code)
  | .numFailed => ∃ n : Nat, n < 2 ^ 32 ∧ v = some (.integer n)
  | .mimeType | .title | .description | .notificationPackage | .notificationClass
  | .notificationExtras | .etag | .cookies | .userAgent | .referer =>
    ∃ o, v = some (.ofText? o)
  | .filePath => v = none ∨ ∃ o, v = some (.ofText? o)
  | .visibleInUi => v = none ∨ ∃ n, v = some (.integer n)
  | .completionNotified => True

/-! ## Faults -/

/-- A code that stands for nothing. -/
def codeFault? {α : Type} (ofCode? : Int → Option α) (n : Int) : Option FieldFault :=
  if (ofCode? n).isSome then none else some (.unknownCode n)

/-- What is wrong with an integer in a column of integers. -/
def integerFault? (n : Int) : Column → Option FieldFault
  | .destination => codeFault? Destination.ofCode? n
  | .control => codeFault? Control.ofCode? n
  | .status => codeFault? Status.ofCode? n
  | .visibility => codeFault? Visibility.ofCode? n
  | .numFailed => if 0 ≤ n ∧ n ≤ Record.maxFailures then none else some (.outOfRange n)
  | _ => none

/-- What is wrong with a value in a column. -/
def valueFault? (c : Column) : FieldValue → Option FieldFault
  | .null => if c ∈ integers ∨ c = .uri then some .unexpectedNull else none
  | .integer n => if c ∈ integers then c.integerFault? n else some .expectedText
  | .text _ => if c ∈ integers then some .expectedInteger else none

/-- The columns that a snapshot may be without. -/
def optional : List Column := [.filePath, .visibleInUi]

/-- The error that a column gives. -/
def fault? (c : Column) : Option FieldValue → Option RecordError
  | none => if c ∈ optional then none else some (.missingField c)
  | some v => (c.valueFault? v).map (.invalidField c)

variable {c : Column} {v : Option FieldValue} {e : RecordError}

/-- An error names the column that gives it, and calls it missing exactly if it is absent. -/
theorem of_fault? (h : c.fault? v = some e) :
    e.column = c ∧ (e = .missingField c ↔ v = none) := by
  cases v with
  | none =>
    simp only [fault?, ite_eq_iff, reduceCtorEq, and_false, false_or, Option.some.injEq] at h
    obtain ⟨-, rfl⟩ := h
    exact ⟨rfl, by simp⟩
  | some v =>
    obtain ⟨fault, -, rfl⟩ := Option.map_eq_some_iff.mp h
    exact ⟨rfl, by simp⟩

theorem codeFault?_eq_none {α : Type} {ofCode? : Int → Option α} {n : Int} :
    codeFault? ofCode? n = none ↔ (ofCode? n).isSome = true := by
  unfold codeFault?
  split <;> simp_all

theorem integerFault?_numFailed {n : Int} :
    integerFault? n .numFailed = none ↔ 0 ≤ n ∧ n < 2 ^ 32 := by
  have hmax : n < 2 ^ 32 ↔ n ≤ Record.maxFailures := by
    unfold Record.maxFailures
    omega
  rw [hmax]
  exact ite_eq_left_iff.trans (by simp)

/-- What a column of integers accepts. -/
theorem fault?_of_integers (hc : c ∈ integers) :
    c.fault? v = none ↔
      v = none ∧ c ∈ optional ∨ ∃ n, c.integerFault? n = none ∧ v = some (.integer n) := by
  rcases v with - | - | n | s <;> simp [fault?, valueFault?, hc]

/-- What a column of texts accepts. -/
theorem fault?_of_texts (hc : c ∉ integers) :
    c.fault? v = none ↔ v = none ∧ c ∈ optional ∨
      ∃ o : Option String, (c = .uri → o ≠ none) ∧ v = some (.ofText? o) := by
  rcases v with - | - | n | s <;>
    simp [fault?, valueFault?, hc, Option.exists, FieldValue.ofText?]

theorem fault?_eq_none_iff (hc : c ∈ Record.columns) : c.fault? v = none ↔ c.Admits v := by
  cases c
  case completionNotified => exact absurd hc (by decide)
  case uri | mimeType | title | description | notificationPackage | notificationClass
      | notificationExtras | etag | cookies | userAgent | referer | filePath =>
    rw [fault?_of_texts (by decide)]
    simp [optional, Admits, Option.exists, FieldValue.ofText?]
  case numFailed =>
    rw [fault?_of_integers (by decide)]
    simp only [optional, Admits, integerFault?_numFailed]
    constructor
    · rintro (⟨-, h⟩ | ⟨n, hn, rfl⟩)
      · exact absurd h (by decide)
      · exact ⟨n.toNat, by omega, by rw [Int.toNat_of_nonneg hn.1]⟩
    · rintro ⟨n, hn, rfl⟩
      exact .inr ⟨n, by omega, rfl⟩
  all_goals
    rw [fault?_of_integers (by decide)]
    simp [optional, Admits, integerFault?, codeFault?_eq_none, Destination.isSome_ofCode?,
      Control.isSome_ofCode?, Visibility.isSome_ofCode?, Status.isSome_ofCode?]

end Column

/-! ## Readings that stop at the first fault -/

/-- The error of a computation that fails. -/
def error? {ε α : Type} : Except ε α → Option ε
  | .error e => some e
  | .ok _ => none

theorem error?_eq_none_iff {ε α : Type} {x : Except ε α} : error? x = none ↔ x.isOk = true := by
  cases x <;> simp [error?, Except.isOk, Except.toBool]

namespace Record

/-- The first fault of the columns. -/
def firstFault? (f : Fields) (cs : List Column) : Option RecordError :=
  cs.findSome? fun c => c.fault? (f.find? c.name)

/-- The reading fails with the first fault of the columns, and without one it succeeds. -/
def Scans {α : Type} (f : Fields) (cs : List Column) (x : Except RecordError α) : Prop :=
  error? x = firstFault? f cs

section

variable {α β : Type} {f : Fields} {c : Column} {cs ds : List Column}

theorem Scans.pure (a : α) : Scans f [] (Pure.pure a) := rfl

theorem Scans.bind {x : Except RecordError α} {g : α → Except RecordError β}
    (hx : Scans f cs x) (hg : ∀ a, Scans f ds (g a)) : Scans f (cs ++ ds) (x >>= g) := by
  unfold Scans firstFault? at hx hg ⊢
  rw [List.findSome?_append, ← hx]
  cases x with
  | error e => rfl
  | ok a => exact hg a

theorem Scans.cons {x : Except RecordError α} {g : α → Except RecordError β}
    (hx : Scans f [c] x) (hg : ∀ a, Scans f ds (g a)) : Scans f (c :: ds) (x >>= g) :=
  hx.bind hg

theorem scans_singleton {x : Except RecordError α} :
    Scans f [c] x ↔ error? x = c.fault? (f.find? c.name) := by
  unfold Scans firstFault?
  rw [List.findSome?_singleton]

theorem firstFault?_congr {g : Fields} (h : ∀ c ∈ cs, g.find? c.name = f.find? c.name) :
    firstFault? g cs = firstFault? f cs := by
  unfold firstFault?
  induction cs with
  | nil => rfl
  | cons c cs ih =>
    rw [List.findSome?_cons, List.findSome?_cons, h c List.mem_cons_self,
      ih fun d hd => h d (List.mem_cons_of_mem _ hd)]

/-! ### One column

What a lemma asks of a column is decided where the reading of that column is met. -/

theorem scans_integer (hc : c ∈ Column.integers := by decide)
    (hopt : c ∉ Column.optional := by decide)
    (hany : ∀ n, c.integerFault? n = none := by exact fun _ => rfl) :
    Scans f [c] (f.integer c) := by
  rw [scans_singleton, Fields.integer]
  rcases f.find? c.name with - | - | n | s <;>
    simp [error?, Column.fault?, Column.valueFault?, hc, hopt, hany]

theorem scans_coded {ofCode? : Int → Option α} (hc : c ∈ Column.integers := by decide)
    (hopt : c ∉ Column.optional := by decide)
    (hcode : ∀ n, c.integerFault? n = Column.codeFault? ofCode? n := by exact fun _ => rfl) :
    Scans f [c] (f.coded c ofCode?) := by
  rw [scans_singleton, Fields.coded, Fields.integer]
  rcases f.find? c.name with - | - | n | s
  case some.integer =>
    cases h : ofCode? n <;>
      simp [h, error?, Column.fault?, Column.valueFault?, hc, hcode, Column.codeFault?]
  all_goals simp [error?, Column.fault?, Column.valueFault?, hc, hopt]

theorem scans_text? (hc : c ∉ Column.integers := by decide)
    (hopt : c ∉ Column.optional := by decide) (huri : c ≠ .uri := by decide) :
    Scans f [c] (f.text? c) := by
  rw [scans_singleton, Fields.text?]
  rcases f.find? c.name with - | - | n | s <;>
    simp [error?, Column.fault?, Column.valueFault?, hc, hopt, huri]

theorem scans_uri : Scans f [.uri] (f.text .uri) := by
  rw [scans_singleton, Fields.text, Fields.text?]
  rcases f.find? Column.uri.name with - | - | n | s <;> rfl

theorem scans_readFailures : Scans f [.numFailed] (readFailures f) := by
  rw [scans_singleton, readFailures, Fields.integer]
  rcases f.find? Column.numFailed.name with - | - | n | s
  case some.integer =>
    show error? (if 0 ≤ n ∧ n ≤ maxFailures then Pure.pure n.toNat else _) = _
    by_cases hn : 0 ≤ n ∧ n ≤ maxFailures <;>
      simp [hn, Column.fault?, Column.valueFault?, Column.integerFault?, Column.integers] <;> rfl
  all_goals rfl

theorem scans_readTarget :
    Scans f [.notificationPackage, .notificationClass, .notificationExtras] (readTarget f) := by
  refine .cons scans_text? fun _ => .cons scans_text? fun _ => .cons scans_text? fun _ => ?_
  exact .pure _

theorem scans_readFilePath : Scans f [.filePath] (readFilePath f) := by
  rw [scans_singleton, readFilePath, Dict.contains, Fields.text?]
  rcases f.find? Column.filePath.name with - | - | n | s <;> rfl

theorem scans_readVisibleInUi : Scans f [.visibleInUi] (readVisibleInUi f) := by
  rw [scans_singleton, readVisibleInUi, Dict.contains, Fields.integer]
  rcases f.find? Column.visibleInUi.name with - | - | n | s <;> rfl

end

/-- A snapshot is read column by column, and its header rows give no error. -/
theorem scans_ofSnapshot (x : Snapshot) : Scans x.row columns (ofSnapshot x) := by
  unfold ofSnapshot
  -- The rules follow the lines of the reading, so they check that its order is that of the columns.
  refine .cons scans_integer fun _ => .cons scans_uri fun _ => ?_
  refine .cons scans_coded fun _ => .cons scans_coded fun _ => ?_
  refine .cons scans_coded fun _ => .cons scans_coded fun _ => ?_
  refine .cons scans_readFailures fun _ => .cons scans_integer fun _ => ?_
  refine .cons scans_integer fun _ => .cons scans_integer fun _ => .cons scans_integer fun _ => ?_
  refine .cons scans_text? fun _ => .cons scans_text? fun _ => .cons scans_text? fun _ => ?_
  refine .bind scans_readTarget fun _ => ?_
  refine .cons scans_text? fun _ => .cons scans_text? fun _ => ?_
  refine .cons scans_text? fun _ => .cons scans_text? fun _ => ?_
  refine .cons scans_integer fun _ => .cons scans_readFilePath fun _ => ?_
  exact .cons scans_readVisibleInUi fun _ => .pure _

/-! ## What is built -/

theorem error?_build (x : Snapshot) (words : RandomWords) :
    error? (build x words).1 = firstFault? x.row columns := by
  rw [← scans_ofSnapshot x]
  cases h : ofSnapshot x with
  | error e => rw [build_of_error h]
  | ok r => rw [build_of_ok h]; rfl

theorem firstFault?_eq_none_iff {f : Fields} :
    firstFault? f columns = none ↔ ∀ c ∈ columns, c.Admits (f.find? c.name) := by
  rw [firstFault?, List.findSome?_eq_none_iff]
  exact forall₂_congr fun c hc => Column.fault?_eq_none_iff hc

/-- The first fault is that of the first column that is not admitted. -/
theorem of_firstFault? {f : Fields} {e : RecordError} (h : firstFault? f columns = some e) :
    ∃ before after, columns = before ++ e.column :: after ∧
      (∀ c ∈ before, c.Admits (f.find? c.name)) ∧ ¬ e.column.Admits (f.find? e.column.name) ∧
      (e = .missingField e.column ↔ f.find? e.column.name = none) := by
  obtain ⟨before, c, after, hsplit, hfault, hbefore⟩ := List.findSome?_eq_some_iff.mp h
  obtain ⟨rfl, hmissing⟩ := Column.of_fault? hfault
  have hmem : ∀ c ∈ before ++ [e.column], c ∈ columns := by
    intro c hc
    rw [hsplit, List.append_cons]
    exact List.mem_append_left after hc
  refine ⟨before, after, hsplit, fun c hc => ?_, fun hadmits => ?_, hmissing⟩
  · exact (Column.fault?_eq_none_iff (hmem c (by simp [hc]))).mp (hbefore c hc)
  · rw [(Column.fault?_eq_none_iff (hmem _ (by simp))).mpr hadmits] at hfault
    cases hfault

/-- **Which rows are records.** A record is built exactly if each of its columns holds what it
needs. Otherwise the error names the first column that does not, and calls it missing exactly if it
is absent. Only a record that is built draws a jitter, and it draws one. Snapshots with the same
values in these columns give the same error or none, whatever else they hold and whatever is
random. -/
theorem build_accepts (x : Snapshot) (words : RandomWords) :
    ((build x words).1.isOk = true ↔ ∀ c ∈ columns, c.Admits (x.row.find? c.name)) ∧
      (∀ r rest, build x words = (.ok r, rest) → (r.jitterFuzz, rest) = words.drawJitter) ∧
      (∀ e rest, build x words = (.error e, rest) → rest = words ∧
        ∃ before after, columns = before ++ e.column :: after ∧
          (∀ c ∈ before, c.Admits (x.row.find? c.name)) ∧
          ¬ e.column.Admits (x.row.find? e.column.name) ∧
          (e = .missingField e.column ↔ x.row.find? e.column.name = none)) ∧
      ∀ (y : Snapshot) (words' : RandomWords),
        (∀ c ∈ columns, y.row.find? c.name = x.row.find? c.name) →
        error? (build y words').1 = error? (build x words).1 := by
  refine ⟨?_, ?_, ?_, ?_⟩
  · rw [← error?_eq_none_iff, error?_build, firstFault?_eq_none_iff]
  · intro r rest h
    cases hx : ofSnapshot x with
    | error e => rw [build_of_error hx] at h; cases h
    | ok r' => rw [build_of_ok hx] at h; cases h; rfl
  · intro e rest h
    have hfault := error?_build x words
    rw [h] at hfault
    refine ⟨?_, of_firstFault? hfault.symm⟩
    cases hx : ofSnapshot x with
    | error e' => rw [build_of_error hx] at h; cases h; rfl
    | ok r => rw [build_of_ok hx] at h; cases h
  · intro y words' h
    rw [error?_build, error?_build, firstFault?_congr h]

/-- The columns of a download that was just inserted. -/
def freshFields : Fields := (({ uri := "https://example.com/a" } : NewDownload).row 1 0).values

/-- The columns without the control, with an unknown status and with a number as a title. -/
def brokenFields : Fields :=
  ((freshFields.erase "control").insert "status" (.integer 7)).insert "title" (.integer 7)

theorem build_accepts_brokenFields :
    (∀ c ∈ columns, c.Admits (freshFields.find? c.name)) ∧
      (∃ r, build ⟨freshFields, []⟩ ⟨[2147483648, 5], 0⟩ = (.ok r, ⟨[5], 1⟩) ∧
        r.jitterFuzz = 500) ∧
      build ⟨brokenFields, []⟩ ⟨[5], 0⟩ = (.error (.missingField .control), ⟨[5], 0⟩) ∧
      ¬ Column.control.Admits (brokenFields.find? "control") ∧
      error? (build ⟨brokenFields.insert "priority" .null, [("Cookie", "a")]⟩ ⟨[], 3⟩).1 =
        some (.missingField .control) := by
  have hbroken : build ⟨brokenFields, []⟩ ⟨[5], 0⟩ =
      (.error (.missingField .control), ⟨[5], 0⟩) := by decide +kernel
  obtain ⟨hok, hdraw, -⟩ := build_accepts ⟨freshFields, []⟩ ⟨[2147483648, 5], 0⟩
  obtain ⟨-, -, herror, hsame⟩ := build_accepts ⟨brokenFields, []⟩ ⟨[5], 0⟩
  refine ⟨hok.mp (by decide +kernel), ?_, hbroken, ?_, ?_⟩
  · obtain ⟨r, hr⟩ : ∃ r, build ⟨freshFields, []⟩ ⟨[2147483648, 5], 0⟩ = (.ok r, ⟨[5], 1⟩) :=
      ⟨_, by with_unfolding_all rfl⟩
    exact ⟨r, hr, congrArg Prod.fst (hdraw _ _ hr)⟩
  · obtain ⟨-, before, after, -, -, hnot, -⟩ := herror _ _ hbroken
    exact hnot
  · rw [hsame ⟨brokenFields.insert "priority" .null, [("Cookie", "a")]⟩ ⟨[], 3⟩ (by decide +kernel),
      hbroken]
    rfl

end Record

end Downloads
