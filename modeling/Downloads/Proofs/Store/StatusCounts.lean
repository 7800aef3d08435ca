import Downloads.Proofs.Schedule.Report
import Downloads.Proofs.Store.Snapshots

/-!
# Counting downloads by status

A count asks for the code of a status, and a listing reads the status of a code. Each status that a
download can have is counted as it is read, but a failure may be asked for by any number of 16 bits,
and one with the code of another status counts the downloads with that other status as well
(`Store.Reachable.counts_records`).
-/

namespace Downloads

namespace Status

/-- A failure with the code of a status that is no failure. -/
def SharesCode (st st' : Status) : Prop := ∃ c, st = .failed c ∧ st' ∈ plain ∧ st'.code = c.toNat

instance (st st' : Status) : Decidable (st.SharesCode st') :=
  match st with
  | .failed c => decidable_of_iff (st' ∈ plain ∧ st'.code = c.toNat) (by simp [SharesCode])
  | .notStarted | .pending | .running | .runningPaused | .success => .isFalse nofun

theorem mem_plain_iff {st : Status} : st ∈ plain ↔ ∀ c, st ≠ .failed c := by
  cases st <;> simp [plain]

/-- A status that is read of a row has its code for itself, but for failures that share it. -/
theorem code_eq_iff {st st' : Status} (h : st'.Storable) :
    st.code = st'.code ↔ st = st' ∨ st.SharesCode st' := by
  constructor
  · intro hcode
    by_cases hst : st.Storable
    · exact .inl (eq_of_code hst h (c := .int st.code) rfl (by rw [hcode]))
    · obtain ⟨c, rfl, hc⟩ : ∃ c, st = .failed c ∧ isFailureCode c.toNat ≠ true := by
        simpa [Storable] using hst
      refine .inr ⟨c, rfl, mem_plain_iff.mpr ?_, hcode.symm⟩
      rintro c' rfl
      -- Two failures with one code are the same, and the other one is a failure that is stored.
      have hsame : c.toNat = c'.toNat := Int.ofNat_inj.mp hcode
      exact hc (hsame ▸ h c' rfl)
  · rintro (rfl | ⟨c, rfl, -, hcode⟩)
    · rfl
    · exact hcode.symm

theorem Storable.not_sharesCode {st : Status} (h : st.Storable) (st' : Status) :
    ¬ st.SharesCode st' := by
  rintro ⟨c, rfl, hplain, hcode⟩
  have hst' : st'.Storable := storable_of_not_failed (mem_plain_iff.mp hplain)
  have hsame : st' = .failed c := eq_of_code hst' h (c := .int st'.code) rfl (by rw [hcode]; rfl)
  exact mem_plain_iff.mp hplain c hsame

end Status

/-- The row is one of those that a count of the status finds. -/
def Row.CountedAs (r : Row) (st : Status) : Prop := r.status = .int st.code

instance (r : Row) (st : Status) : Decidable (r.CountedAs st) :=
  inferInstanceAs (Decidable (r.status = .int st.code))

namespace Store

variable {s : Store} {r : Row} {c : Record}

theorem countByStatus_eq (s : Store) (st : Status) :
    s.countByStatus st = s.rows.countP fun r => r.CountedAs st := by
  unfold countByStatus
  congr 1

/-- The row holds the status of the record. -/
def HoldsStatus (r : Row) (c : Record) : Prop :=
  c.status.Storable ∧ r.status = .int c.status.code

theorem HoldsStatus.countedAs_iff (h : HoldsStatus r c) (st : Status) :
    r.CountedAs st ↔ c.status = st ∨ st.SharesCode c.status := by
  have hcell : r.CountedAs st ↔ st.code = c.status.code := by
    rw [Row.CountedAs, h.2, Cell.int.injEq, eq_comm]
  rw [hcell, Status.code_eq_iff h.1, eq_comm]

/-- The records of a listing hold the statuses of its rows, whatever jitter they draw. -/
theorem Reachable.holdsStatus_listed [Url.HostNames] (h : s.Reachable) {rows : List Row}
    (hrows : ∀ r ∈ rows, r ∈ s.rows) (hbuilds : ∀ r ∈ rows, r.Builds) (words : RandomWords) :
    List.Forall₂ HoldsStatus rows (Record.listed (rows.map s.view) words) := by
  induction rows generalizing words with
  | nil => exact .nil
  | cons r rows ih =>
    obtain ⟨n, hn, hle⟩ := hbuilds r List.mem_cons_self
    have hsound : r.Sound := h.sound_of_mem (hrows r List.mem_cons_self)
    obtain ⟨st, hst, hcode⟩ := hsound.status
    have hrecord := Record.ofSnapshot_values (hsound.legible hn) hst hcode hn (s.headersOf r.id)
    rw [if_pos hle] at hrecord
    have hbuild := Record.build_of_ok hrecord words
    have hrest := ih (fun x hx => hrows x (List.mem_cons_of_mem r hx))
      (fun x hx => hbuilds x (List.mem_cons_of_mem r hx)) words.drawJitter.2
    have hlisted : Record.listed ((r :: rows).map s.view) words =
        { r.record st n (s.headersOf r.id) with jitterFuzz := words.drawJitter.1 } ::
          Record.listed (rows.map s.view) words.drawJitter.2 := by
      rw [List.map_cons, Record.listed, Record.buildAll, view, hbuild]
      rfl
    rw [hlisted]
    exact .cons ⟨hst, hcode⟩ hrest

/-- A count finds the records with the status, and those with a status that shares its code. -/
theorem countP_countedAs {rows : List Row} {records : List Record}
    (h : List.Forall₂ HoldsStatus rows records) (st : Status) :
    rows.countP (fun r => r.CountedAs st) =
      records.countP (fun c => c.status = st) +
        records.countP fun c => st.SharesCode c.status := by
  induction h with
  | nil => rfl
  | @cons r c rows records hr _ ih =>
    have hcounted := hr.countedAs_iff st
    have hnot : c.status = st → ¬ st.SharesCode c.status := by
      rintro rfl
      exact hr.1.not_sharesCode c.status
    have hone : (if r.CountedAs st then 1 else 0) =
        (if c.status = st then 1 else 0) + if st.SharesCode c.status then 1 else 0 := by
      split_ifs <;> simp_all
    simp only [List.countP_cons, decide_eq_true_eq, ih, hone]
    omega

/-- **Counts and records.** In a store of which every download is a record, a count finds the
downloads that are read with the status, and those that are read with a status whose code the
counted failure shares. So the count is right unless it is asked for a failure with the code of
another status that some download has, and a status that a download can have is counted right. A
download is counted under its own status, and otherwise only under the failure that shares its
code. -/
theorem Reachable.counts_records [Url.HostNames] (h : s.Reachable)
    (hbuilds : ∀ id r, s.find? id = some r → s.Builds id) :
    ∃ xs, s.snapshots = .ok xs ∧ ∀ words,
      let records := Record.listed xs words
      records.length = xs.length ∧
      (∀ st, s.countByStatus st =
        records.countP (fun c => c.status = st) +
          records.countP fun c => st.SharesCode c.status) ∧
      (∀ st, s.countByStatus st = records.countP (fun c => c.status = st) ↔
        ∀ c ∈ records, ¬ st.SharesCode c.status) ∧
      (∀ st, st.Storable → s.countByStatus st = records.countP fun c => c.status = st) ∧
      ∀ id r c, s.find? id = some r → s.Reads id c →
        ∀ st, r.CountedAs st ↔ c.status = st ∨ st.SharesCode c.status := by
  have hrow : ∀ r ∈ s.rows, r.numFailed ≠ .real ∧ r.Builds := by
    intro r hr
    have hfind := h.ordered.find?_eq_some hr
    obtain ⟨c, hc⟩ := builds_iff_exists_reads.mp (hbuilds r.id r hfind)
    have hreal := h.numFailed_ne_real hfind hc
    exact ⟨hreal, (h.builds_iff hfind hreal).mp (hbuilds r.id r hfind)⟩
  refine ⟨_, h.snapshots_eq_ok_iff.mpr ⟨fun r hr => (hrow r hr).1, rfl⟩, fun words => ?_⟩
  intro records
  have hholds : List.Forall₂ HoldsStatus s.rows records :=
    h.holdsStatus_listed (fun _ hr => hr) (fun r hr => (hrow r hr).2) words
  have hcount : ∀ st, s.countByStatus st =
      records.countP (fun c => c.status = st) + records.countP fun c => st.SharesCode c.status :=
    fun st => (s.countByStatus_eq st).trans (countP_countedAs hholds st)
  have hexact : ∀ st, s.countByStatus st = records.countP (fun c => c.status = st) ↔
      ∀ c ∈ records, ¬ st.SharesCode c.status := by
    intro st
    rw [hcount, Nat.add_eq_left, List.countP_eq_zero]
    simp only [decide_eq_true_eq]
  refine ⟨?_, hcount, hexact, fun st hst => ?_, fun id r c hr hc => ?_⟩
  · rw [← hholds.length_eq, List.length_map]
  · exact (hexact st).mpr fun c _ => hst.not_sharesCode c.status
  · obtain ⟨st, n, hst, hcode, -, -, rfl⟩ := (h.reads_iff hr (h.numFailed_ne_real hr hc)).mp hc
    exact HoldsStatus.countedAs_iff ⟨hst, hcode⟩

/-- Two downloads: one waits for its first attempt, and one was given up. -/
def givenUpStore : Store :=
  empty.run [.insert { uri := "https://example.com/a" } 0,
    .insert { uri := "https://example.com/b" } 0, .markFailed 2 404 1]

theorem builds_givenUpStore :
    ∀ id r, givenUpStore.find? id = some r → givenUpStore.Builds id := by
  have hreach : givenUpStore.Reachable := ⟨_, rfl⟩
  have hfailures : ∀ r ∈ givenUpStore.rows, r.numFailed = .int 0 := by decide +kernel
  intro id r hr
  have hzero := hfailures r (mem_of_find? hr)
  exact (hreach.builds_iff hr (by rw [hzero]; nofun)).mpr ⟨0, hzero, by decide⟩

/-- A failure with the code of a download that waits can be asked for. It counts that download,
which is not read as failed and is counted as waiting too. -/
theorem not_counts_givenUpStore :
    givenUpStore.Reachable ∧ (∀ id r, givenUpStore.find? id = some r → givenUpStore.Builds id) ∧
      Status.ofJson? (.object [("failed", .int 190)]) = some (.failed 190) ∧
      givenUpStore.countByStatus (.failed 190) = 1 ∧ givenUpStore.countByStatus .pending = 1 ∧
      givenUpStore.snapshots.map (fun xs => (Record.listed xs ⟨[], 0⟩).map (·.status)) =
        .ok [.pending, .failed 404] :=
  ⟨⟨_, rfl⟩, builds_givenUpStore, by decide, by decide +kernel, by decide +kernel,
    by decide +kernel⟩

theorem counts_records_givenUpStore :
    givenUpStore.Reachable ∧ (∀ id r, givenUpStore.find? id = some r → givenUpStore.Builds id) ∧
      (∃ xs, givenUpStore.snapshots = .ok xs ∧ givenUpStore.countByStatus (.failed 404) =
        (Record.listed xs ⟨[7], 0⟩).countP fun c => c.status = .failed 404) ∧
      ∃ r c, givenUpStore.find? 1 = some r ∧ givenUpStore.Reads 1 c ∧ c.status = .pending ∧
        (Status.failed 190).SharesCode c.status := by
  have hreach : givenUpStore.Reachable := ⟨_, rfl⟩
  have hcode : (givenUpStore.find? 1).map (·.status) = some (.int 190) := by decide +kernel
  obtain ⟨r, hr, hcell⟩ := Option.map_eq_some_iff.mp hcode
  obtain ⟨c, hc⟩ := builds_iff_exists_reads.mp (builds_givenUpStore 1 r hr)
  obtain ⟨xs, hxs, hrecords⟩ := hreach.counts_records builds_givenUpStore
  obtain ⟨-, -, -, hright, hcounted⟩ := hrecords ⟨[7], 0⟩
  have hpending : c.status = .pending :=
    ((hcounted 1 r c hr hc .pending).mp hcell).resolve_right
      (Status.storable_pending.not_sharesCode c.status)
  have hshares := ((hcounted 1 r c hr hc (.failed 190)).mp hcell).resolve_left (by simp [hpending])
  exact ⟨hreach, builds_givenUpStore, ⟨xs, hxs, hright _ (Status.storable_failed rfl)⟩, r, c, hr,
    hc, hpending, hshares⟩

end Store

end Downloads
