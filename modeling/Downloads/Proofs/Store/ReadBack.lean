import Downloads.Proofs.Store.RetryCounts
import Downloads.Proofs.Store.Snapshots

/-!
# Reading back what was stored

A run of calls that 64 bits can count leaves rows that can be read: each snapshot holds the columns
of the schema, with values of their types. It is a record as long as the failures since the download
was added or last succeeded can be counted with 32 bits, and every part of the record stays in its
range (`Store.read_back_of_run`).
-/

namespace Downloads

namespace Dict

variable {α : Type}

theorem entries_insert {d : Dict α} {key : String} (h : key ∉ d.entries.map Prod.fst) (v : α) :
    (d.insert key v).entries = d.entries ++ [(key, v)] := by
  have hkept : ∀ e ∈ d.entries, (key != e.1) = true := by
    intro e he
    exact bne_iff_ne.mpr fun hkey => h (hkey ▸ List.mem_map_of_mem he)
  show d.entries.filter (fun e => key != e.1) ++ _ = _
  rw [List.filter_eq_self.mpr hkept]

theorem ofList_concat (pairs : List (String × α)) (e : String × α) :
    ofList (pairs ++ [e]) = (ofList pairs).insert e.1 e.2 := by
  simp only [ofList, List.foldl_append, List.foldl_cons, List.foldl_nil]

/-- A dictionary of pairs with different keys holds these pairs, in their order. -/
theorem entries_ofList {pairs : List (String × α)} (h : (pairs.map Prod.fst).Nodup) :
    (ofList pairs).entries = pairs := by
  induction pairs using List.reverseRecOn with
  | nil => rfl
  | append_singleton pairs e ih =>
    rw [List.map_append, List.nodup_append] at h
    obtain ⟨hpairs, -, hdisjoint⟩ := h
    have hnew : e.1 ∉ (ofList pairs).entries.map Prod.fst := by
      rw [ih hpairs]
      exact fun hmem => hdisjoint e.1 hmem e.1 (by simp) rfl
    rw [ofList_concat, entries_insert hnew, ih hpairs]

end Dict

/-! ## Columns -/

/-- The values of a whole row: one for each column of the schema, and of the type of its column. -/
structure Fields.FitsSchema (f : Fields) : Prop where
  /-- There is one value for each column, in the order of the schema, and no other. -/
  names : f.entries.map Prod.fst = Column.all.map Column.name
  integer : ∀ c ∈ Column.integers, ∃ n, f.find? c.name = some (.integer n)
  uri : ∃ u, f.find? Column.uri.name = some (.text u)
  /-- Every other column holds a text or null. -/
  text : ∀ c ∉ Column.integers, ∃ o, f.find? c.name = some (.ofText? o)

theorem Row.Legible.fitsSchema {r : Row} (h : r.Legible) : r.values.FitsSchema where
  names := by
    have hnames : (Column.all.map fun c => (c.name, r.value c)).map Prod.fst =
        Column.all.map Column.name := by simp only [List.map_map, Function.comp_def]
    have hnodup : (Column.all.map Column.name).Nodup := by decide
    unfold values
    rw [Dict.entries_ofList (by rwa [hnames]), hnames]
  integer c hc := by
    obtain ⟨n, hn⟩ := h c hc
    exact ⟨n, by simp only [find?_values, value, hn]⟩
  uri := ⟨r.uri, r.find?_values .uri⟩
  text c hc := by
    obtain ⟨o, ho⟩ := r.cell?_of_not_mem_integers hc
    exact ⟨o, by cases o <;> simp [find?_values, value, ho, FieldValue.ofText?]⟩

/-! ## Records -/

namespace PackedRetry

theorem unpack_fst_lt (field : Int) : (unpack field).1 < waitCount :=
  Nat.mod_lt _ (by decide)

theorem unpack_snd_le (field : Int) : (unpack field).2 ≤ maxRedirects :=
  Nat.le_of_lt_succ (Nat.mod_lt _ (by decide))

end PackedRetry

/-- The parts of a record that are stored in more bits than they have stay in their ranges. -/
structure Record.InRange (c : Record) : Prop where
  failures : c.numFailedAttempts ≤ 4294967295
  redirects : c.redirectCount ≤ 15
  wait : c.retryAfterSeconds < 2 ^ 28
  code : ∀ n, c.status = .failed n → 400 ≤ n.toNat ∧ n.toNat ≤ 599

theorem Row.inRange_record (r : Row) {st : Status} (hst : st.Storable) {n : Nat}
    (hn : (n : Int) ≤ Record.maxFailures) (headers : List (String × String)) (jitterFuzz : Nat) :
    Record.InRange { r.record st n headers with jitterFuzz } where
  failures := Int.ofNat_le.mp hn
  redirects := PackedRetry.unpack_snd_le _
  wait := PackedRetry.unpack_fst_lt _
  code c hc := by
    have hcode : Status.isFailureCode c.toNat = true := hst c hc
    simp only [Status.isFailureCode, Bool.and_eq_true, decide_eq_true_eq] at hcode
    omega

/-- A row of which the count of failures is an integer builds if the count has 32 bits, and then
stays in the ranges of a record. -/
theorem Row.Sound.build_values {r : Row} (h : r.Sound) {n : Nat} (hn : r.numFailed = .int n)
    (headers : List (String × String)) (words : RandomWords) :
    ((Record.build ⟨r.values, headers⟩ words).1.isOk = true ↔ n < 2 ^ 32) ∧
      ∀ c, (Record.build ⟨r.values, headers⟩ words).1 = .ok c → c.InRange := by
  obtain ⟨st, hst, hcode⟩ := h.status
  have hread := Record.ofSnapshot_values (h.legible hn) hst hcode hn headers
  by_cases hle : (n : Int) ≤ Record.maxFailures
  · rw [if_pos hle] at hread
    rw [Record.build_of_ok hread]
    refine ⟨iff_of_true rfl ?_, fun c hc => ?_⟩
    · unfold Record.maxFailures at hle
      omega
    · cases hc
      exact r.inRange_record hst hle headers _
  · rw [if_neg hle] at hread
    rw [Record.build_of_error hread]
    refine ⟨iff_of_false (by simp [Except.isOk, Except.toBool]) ?_, fun c hc => by cases hc⟩
    unfold Record.maxFailures at hle
    omega

namespace Store

open Operation

section

variable [Url.HostNames]

theorem length_callsSinceStart_le (id : Int) (ops : List Operation) :
    (callsSinceStart id ops).length ≤ ops.length := by
  induction ops using List.reverseRecOn with
  | nil => exact Nat.le_refl 0
  | append_singleton ops op ih =>
    rw [callsSinceStart_concat, List.length_append]
    split
    · exact Nat.zero_le _
    · rw [List.length_append]
      exact Nat.add_le_add_right ih 1

theorem length_waits_le (id : Int) (ops : List Operation) :
    (waits id (callsSinceStart id ops)).length ≤ ops.length :=
  (List.length_filterMap_le _ _).trans (length_callsSinceStart_le id ops)

/-- **Reading back.** After a run of fewer than `2 ^ 63` calls, every download that is there can be
read, and its snapshot fits the schema. The snapshot is a record if and only if fewer than `2 ^ 32`
failures were recorded for it since it was added or last succeeded, and then the record is in
range. -/
theorem read_back_of_run (ops : List Operation) (hops : ops.length < 2 ^ 63) {id : Int} {r : Row}
    (hr : (empty.run ops).find? id = some r) :
    ∃ x, (empty.run ops).snapshot? id = .ok (some x) ∧ x.row.FitsSchema ∧
      ∀ words,
        ((Record.build x words).1.isOk = true ↔
          (waits id (callsSinceStart id ops)).length < 2 ^ 32) ∧
        ∀ c, (Record.build x words).1 = .ok c → c.InRange := by
  have hreach : (empty.run ops).Reachable := ⟨ops, rfl⟩
  have hcount : r.numFailed = .count (waits id (callsSinceStart id ops)).length :=
    (counts_of_find? ops hr).numFailed
  have hle : ((waits id (callsSinceStart id ops)).length : Int) ≤ maxInt64 := by
    have hwaits := length_waits_le id ops
    unfold maxInt64
    omega
  rw [Cell.count, if_pos hle] at hcount
  have hsound : r.Sound := hreach.sound hr
  exact ⟨_, hreach.snapshot?_of_find? hr (by rw [hcount]; nofun),
    (hsound.legible hcount).fitsSchema, hsound.build_values hcount _⟩

end

/-- A run with a negative packed field that ends with a failure. -/
def givenUpRun : List Operation := redirectedRun ++ [.markFailed 1 404 5]

theorem read_back_of_givenUpRun :
    givenUpRun.length < 2 ^ 63 ∧
      ∃ r x, (empty.run givenUpRun).find? 1 = some r ∧
        (empty.run givenUpRun).snapshot? 1 = .ok (some x) ∧ x.row.FitsSchema ∧
        ∃ c, (Record.build x ⟨[7], 0⟩).1 = .ok c ∧ c.InRange ∧ c.status = .failed 404 := by
  have hlen : givenUpRun.length < 2 ^ 63 := by decide
  have hsome : ((empty.run givenUpRun).find? 1).isSome = true := by decide +kernel
  have hwaits : (waits 1 (callsSinceStart 1 givenUpRun)).length < 2 ^ 32 := by decide +kernel
  have hstatus : ((empty.run givenUpRun).snapshot? 1).map (fun x? => x?.map fun x =>
      (Record.build x ⟨[7], 0⟩).1.map (·.status)) = .ok (some (.ok (.failed 404))) := by
    decide +kernel
  obtain ⟨r, hr⟩ := Option.isSome_iff_exists.mp hsome
  obtain ⟨x, hx, hfits, hbuild⟩ := read_back_of_run givenUpRun hlen hr
  obtain ⟨hiff, hrange⟩ := hbuild ⟨[7], 0⟩
  have hok := hiff.mpr hwaits
  rw [hx, Except.map, Option.map_some] at hstatus
  rcases hc : (Record.build x ⟨[7], 0⟩).1 with e | c <;> rw [hc] at hok hstatus
  · cases hok
  · exact ⟨hlen, r, x, hr, hx, hfits, c, hc, hrange c hc, by simpa [Except.map] using hstatus⟩

end Store

end Downloads
