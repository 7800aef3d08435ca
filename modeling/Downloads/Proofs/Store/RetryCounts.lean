import Downloads.Proofs.Store.Sound
import Mathlib.Algebra.Group.Nat.Defs

/-!
# Failures and redirects over whole runs

The counts of a download start anew when it is added and when it succeeds. From there on the count
of failures is the number of failures recorded for it, and the packed field holds the wait of the
last of them and the number of its redirects, each cut to its bits. The argument keeps the field in
the form `PackedRetry.pack wait redirects` with the uncut numbers, which each call can update.
-/

namespace Downloads

namespace PackedRetry

theorem pack_zero : pack 0 0 = 0 := by decide

theorem pack_wait_mod (wait redirects : Nat) :
    pack (wait % waitCount) redirects = pack wait redirects := by
  simp only [pack, Nat.mod_mod]

theorem pack_redirects_mod (wait redirects : Nat) :
    pack wait (redirects % (maxRedirects + 1)) = pack wait redirects := by
  simp only [pack, Nat.mod_mod]

theorem pack_redirects_mod_succ (wait redirects : Nat) :
    pack wait (redirects % (maxRedirects + 1) + 1) = pack wait (redirects + 1) := by
  simp only [pack, Nat.mod_add_mod]

/-- The highest bit of the redirects is the sign. -/
theorem pack_neg_iff (wait redirects : Nat) :
    pack wait redirects < 0 ↔ 8 ≤ redirects % (maxRedirects + 1) := by
  simp only [pack, Int.bmod_def, waitCount, maxRedirects, fieldCount]
  omega

end PackedRetry

namespace Operation

/-- The wait with which a call records a failure of a download. -/
def wait? (id : Int) : Operation → Option Nat
  | .markPausedForRetry i retryAfter _ => if i = id then some (retryAfter.getD 0) else none
  | _ => none

/-- The waits of the failures that calls record for a download. -/
def waits (id : Int) (calls : List Operation) : List Nat := calls.filterMap (wait? id)

/-- The number of redirects that calls record for a download. -/
def redirects (id : Int) (calls : List Operation) : Nat := calls.count (.recordRedirect id)

end Operation

namespace Store

open Operation

/-! ## Counts of calls -/

/-- The counts of a row are those of the calls. -/
structure Counts (id : Int) (calls : List Operation) (r : Row) : Prop where
  numFailed : r.numFailed = .count (waits id calls).length
  retryRedirect :
    r.retryRedirect = .int (PackedRetry.pack ((waits id calls).getLastD 0) (redirects id calls))

theorem counts_nil {id : Int} {r : Row} (hn : r.numFailed = .int 0)
    (hr : r.retryRedirect = .int 0) :
    Counts id [] r :=
  ⟨hn.trans Cell.count_zero.symm, hr.trans (congrArg Cell.int PackedRetry.pack_zero.symm)⟩

/-- A call that records neither a failure nor a redirect of a download keeps its counts. -/
theorem Counts.concat_other {id : Int} {calls : List Operation} {r r' : Row} {op : Operation}
    (h : Counts id calls r) (hw : op.wait? id = none) (hop : op ≠ .recordRedirect id)
    (hn : r'.numFailed = r.numFailed) (hr : r'.retryRedirect = r.retryRedirect) :
    Counts id (calls ++ [op]) r' := by
  have hwaits : waits id (calls ++ [op]) = waits id calls := by
    simp [waits, List.filterMap_append, hw]
  have hredirects : redirects id (calls ++ [op]) = redirects id calls := by
    simp [redirects, List.count_append, hop]
  exact ⟨by rw [hn, hwaits, h.numFailed], by rw [hr, hwaits, hredirects, h.retryRedirect]⟩

theorem Counts.concat_failure {id : Int} {calls : List Operation} {r : Row}
    (h : Counts id calls r) (retryAfter : Option Nat) (now : Int) :
    Counts id (calls ++ [.markPausedForRetry id retryAfter now])
      (r.pausedForRetry (PackedRetry.pack (retryAfter.getD 0) (redirects id calls)) now) := by
  have hwaits : waits id (calls ++ [.markPausedForRetry id retryAfter now]) =
      waits id calls ++ [retryAfter.getD 0] := by
    simp [waits, List.filterMap_append, wait?]
  have hredirects : redirects id (calls ++ [.markPausedForRetry id retryAfter now]) =
      redirects id calls := by
    simp [redirects, List.count_append]
  refine ⟨?_, ?_⟩
  · show r.numFailed.succ = _
    rw [h.numFailed, Cell.succ_count, hwaits, List.length_append]
    rfl
  · rw [hwaits, hredirects, List.getLastD_concat]
    rfl

theorem Counts.concat_redirect {id : Int} {calls : List Operation} {r : Row}
    (h : Counts id calls r) :
    Counts id (calls ++ [.recordRedirect id])
      (r.withRetry (PackedRetry.pack ((waits id calls).getLastD 0) (redirects id calls + 1))) := by
  have hwaits : waits id (calls ++ [.recordRedirect id]) = waits id calls := by
    simp [waits, List.filterMap_append, wait?]
  have hredirects : redirects id (calls ++ [.recordRedirect id]) = redirects id calls + 1 := by
    simp [redirects, List.count_append]
  exact ⟨by rw [hwaits]; exact h.numFailed, by rw [hwaits, hredirects]; rfl⟩

/-- A call that leaves the download in the store and does not start its counts anew adds itself to
them. -/
theorem Counts.concat {id : Int} {calls : List Operation} {r r' : Row} {op : Operation}
    (h : Counts id calls r) (hop : ∀ p now, op ≠ .markSuccess id p now)
    (hr : op.effect id r = some r') : Counts id (calls ++ [op]) r' := by
  by_cases ht : op.target? = some id
  · rw [effect_of_target ht] at hr
    cases op with
    | insert => cases ht
    | delete => cases hr
    | markPausedForRetry i retryAfter now =>
      cases ht
      simp only [change, h.retryRedirect, Cell.readInt, PackedRetry.unpack_pack,
        PackedRetry.pack_redirects_mod, Option.some.injEq] at hr
      exact hr ▸ h.concat_failure retryAfter now
    | recordRedirect i =>
      cases ht
      simp only [change, h.retryRedirect, Cell.readInt, PackedRetry.unpack_pack,
        PackedRetry.pack_redirects_mod, PackedRetry.pack_redirects_mod_succ,
        PackedRetry.pack_wait_mod, Option.some.injEq] at hr
      exact hr ▸ h.concat_redirect
    | markFailed i code now =>
      obtain rfl := Option.some.inj hr
      refine h.concat_other rfl (by simp) ?_ ?_ <;> split <;> rfl
    | markSuccess i p now =>
      cases ht
      exact absurd rfl (hop p now)
    | claimCompletionNotice i =>
      obtain rfl := Option.some.inj hr
      refine h.concat_other rfl (by simp) ?_ ?_ <;> split <;> rfl
    | addHeader | setControl | markRunning | markWaiting | updateProgress =>
      obtain rfl := Option.some.inj hr
      exact h.concat_other rfl (by simp) rfl rfl
  · rw [effect_of_ne ht] at hr
    obtain rfl := Option.some.inj hr
    refine h.concat_other ?_ ?_ rfl rfl
    · cases op with
      | markPausedForRetry i _ _ =>
        have hi : i ≠ id := fun h => ht (congrArg some h)
        simp [wait?, hi]
      | _ => rfl
    · rintro rfl
      exact ht rfl

/-- Rows with the counts of some calls can be read if and only if 64 bits can count the failures. -/
theorem Ordered.length_waits_lt_iff {s : Store} (hs : s.Ordered) {calls : Int → List Operation}
    (h : ∀ id r, s.find? id = some r → Counts id (calls id) r) :
    (∀ id r, s.find? id = some r → (waits id (calls id)).length < 2 ^ 63) ↔
      ∀ r ∈ s.rows, r.numFailed ≠ .real := by
  have hreal : ∀ id r, s.find? id = some r →
      (r.numFailed ≠ .real ↔ (waits id (calls id)).length < 2 ^ 63) := by
    intro id r hr
    rw [(h id r hr).numFailed, Ne, Cell.count_eq_real_iff, Nat.not_le]
  constructor
  · exact fun hlt r hr => (hreal r.id r (hs.find?_eq_some hr)).mpr
      (hlt r.id r (hs.find?_eq_some hr))
  · exact fun hrows id r hr => (hreal id r hr).mp (hrows r (mem_of_find? hr))

/-- So many failures of a download, one right after the other. -/
def failuresInARow (id : Int) (n : Nat) : List Operation :=
  List.replicate n (.markPausedForRetry id none 0)

theorem concat_failuresInARow_succ (ops : List Operation) (id : Int) (n : Nat) :
    ops ++ failuresInARow id (n + 1) =
      ops ++ failuresInARow id n ++ [.markPausedForRetry id none 0] := by
  unfold failuresInARow
  rw [List.replicate_succ', List.append_assoc]

/-! ## Starts of the counts -/

section

variable [Url.HostNames]

/-- The call starts the counts of a download anew: it adds the download, or records its success. -/
def startsCounts (s : Store) (id : Int) (op : Operation) : Bool :=
  match s.apply op, op with
  | .ok (.inserted i, _), _ => i == id
  | .ok _, .markSuccess i _ _ => i == id
  | _, _ => false

/-- The calls of a run from the empty store that follow the last start of the counts of a
download. -/
def callsSinceStart (id : Int) (ops : List Operation) : List Operation :=
  (ops.foldl (fun (s, calls) op =>
    (s.after op, if s.startsCounts id op then [] else calls ++ [op])) (empty, [])).2

theorem callsSinceStart_concat (id : Int) (ops : List Operation) (op : Operation) :
    callsSinceStart id (ops ++ [op]) =
      if (empty.run ops).startsCounts id op then [] else callsSinceStart id ops ++ [op] := by
  have hstore : (ops.foldl (fun (s, calls) op =>
      (s.after op, if s.startsCounts id op then [] else calls ++ [op])) (empty, [])).1 =
        empty.run ops :=
    fst_foldl after (fun s calls op => if s.startsCounts id op then [] else calls ++ [op])
      ops empty []
  simp only [callsSinceStart, List.foldl_append, List.foldl_cons, List.foldl_nil]
  rw [hstore]

theorem startsCounts_markSuccess {s : Store} {id : Int} {r : Row} (h : s.find? id = some r)
    (p : CompletedPayload) (now : Int) : s.startsCounts id (.markSuccess id p now) = true := by
  simp only [startsCounts, apply, markSuccess, updateRow_of_some h]
  simp [Except.map]

/-- Of a download that is in the store, only a success starts the counts anew. -/
theorem startsCounts_eq_false {s : Store} {id : Int} {r : Row} {op : Operation}
    (h : s.find? id = some r) (hop : ∀ p now, op ≠ .markSuccess id p now) :
    s.startsCounts id op = false := by
  unfold startsCounts
  split
  · rename_i i s' hs'
    obtain ⟨d, now, -, hins⟩ := apply_eq_inserted hs'
    simpa using (ne_of_insert hins h).symm
  · rename_i i p now _ _
    by_cases hi : i = id
    · exact absurd (hi ▸ rfl) (hop p now)
    · simpa using hi
  · rfl

/-- If the rows of a download have the counts of some calls, a further call adds itself to them or
starts them anew. -/
theorem counts_after {s : Store} {id : Int} {calls : List Operation} {op : Operation} {r : Row}
    (hs : ∀ r₀, s.find? id = some r₀ → Counts id calls r₀) (h : (s.after op).find? id = some r) :
    Counts id (if s.startsCounts id op then [] else calls ++ [op]) r := by
  rcases hr : s.find? id with _ | r₀
  · obtain ⟨d, now, rfl, hins, rfl⟩ := find?_after_of_none hr h
    rw [if_pos (by simp only [startsCounts, apply, hins]; simp [Except.map])]
    exact counts_nil rfl rfl
  rw [find?_after_of_some op hr] at h
  by_cases hop : ∃ p now, op = .markSuccess id p now
  · obtain ⟨p, now, rfl⟩ := hop
    rw [if_pos (startsCounts_markSuccess hr p now)]
    rw [effect_of_target rfl] at h
    cases h
    exact counts_nil rfl rfl
  · have hne : ∀ p now, op ≠ .markSuccess id p now := fun p now he => hop ⟨p, now, he⟩
    rw [startsCounts_eq_false hr hne]
    exact (hs r₀ hr).concat hne h

/-- The counts of every download are those of the calls since they last started. -/
theorem counts_of_find? (ops : List Operation) {id : Int} {r : Row}
    (h : (empty.run ops).find? id = some r) : Counts id (callsSinceStart id ops) r := by
  induction ops using List.reverseRecOn generalizing r with
  | nil => cases h
  | append_singleton ops op ih =>
    rw [run_concat] at h
    rw [callsSinceStart_concat]
    exact counts_after (fun _ => ih) h

/-! ## Failures in a row -/

section

variable {ops : List Operation} {id : Int}

/-- The rows of other downloads stay. -/
theorem find?_failuresInARow_of_ne {i : Int} {r : Row} (hi : i ≠ id)
    (hr : (empty.run ops).find? i = some r) (n : Nat) :
    (empty.run (ops ++ failuresInARow id n)).find? i = some r := by
  induction n with
  | zero => rwa [failuresInARow, List.replicate_zero, List.append_nil]
  | succ n ih =>
    rw [concat_failuresInARow_succ, run_concat, find?_after_of_some _ ih]
    exact effect_of_ne (by simpa [target?] using hi.symm) r

variable (hid : ((empty.run ops).find? id).isSome = true)

include hid

/-- Each failure counts. -/
theorem length_waits_failuresInARow (n : Nat) :
    ((empty.run (ops ++ failuresInARow id n)).find? id).isSome = true ∧
      (waits id (callsSinceStart id (ops ++ failuresInARow id n))).length =
        (waits id (callsSinceStart id ops)).length + n := by
  induction n with
  | zero =>
    rw [failuresInARow, List.replicate_zero, List.append_nil]
    exact ⟨hid, rfl⟩
  | succ n ih =>
    obtain ⟨hsome, hcount⟩ := ih
    obtain ⟨r, hr⟩ := Option.isSome_iff_exists.mp hsome
    rw [concat_failuresInARow_succ, run_concat, callsSinceStart_concat,
      startsCounts_eq_false hr fun _ _ hop => by cases hop]
    refine ⟨?_, ?_⟩
    · rw [find?_after_of_some _ hr, effect_of_target rfl]
      simp only [change]
      split <;> rfl
    · simp [waits, List.filterMap_append, wait?] at hcount ⊢
      omega

/-- Of a download that did not fail before, the store counts just these failures. -/
theorem exists_failuresInARow (hnone : waits id (callsSinceStart id ops) = []) (n : Nat) :
    ∃ r, (empty.run (ops ++ failuresInARow id n)).find? id = some r ∧ r.numFailed = .count n := by
  obtain ⟨hsome, hcount⟩ := length_waits_failuresInARow hid n
  obtain ⟨r, hr⟩ := Option.isSome_iff_exists.mp hsome
  rw [hnone, List.length_nil, Nat.zero_add] at hcount
  exact ⟨r, hr, by rw [(counts_of_find? _ hr).numFailed, hcount]⟩

end

/-! ## Answers -/

theorem run_recordRedirect {s : Store} {id : Int} {r : Row} {field : Int} (h : s.find? id = some r)
    (hr : r.retryRedirect = .int field) :
    s.recordRedirect id = .ok (((PackedRetry.unpack field).2 + 1) % (PackedRetry.maxRedirects + 1),
      s.after (.recordRedirect id)) := by
  have heq : s.recordRedirect id =
      .ok (((PackedRetry.unpack field).2 + 1) % (PackedRetry.maxRedirects + 1),
        s.rewrite id fun r => r.withRetry (PackedRetry.pack (PackedRetry.unpack field).1
          (((PackedRetry.unpack field).2 + 1) % (PackedRetry.maxRedirects + 1)))) := by
    simp only [recordRedirect, packedRetry_of_some h, hr, Cell.readInt, bind, Except.bind,
      updateRow_of_some h]
    rfl
  rw [heq, after_of_ok (by simp only [apply, heq]; rfl)]

/-- **Retry bookkeeping.** After any run, let `calls` be those since the download was added or last
succeeded. The stored count of failures is the number of failures among them, up to the last integer
of 64 bits. The packed field reads as the wait of the last failure and the number of redirects,
each modulo its width, and is negative when the redirects need their highest bit. One more redirect
is answered with the number of redirects that it makes. -/
theorem retry_counts_of_run (ops : List Operation) {id : Int} {r : Row}
    (h : (empty.run ops).find? id = some r) :
    let calls := callsSinceStart id ops
    (r.numFailed = if ((waits id calls).length : Int) ≤ maxInt64 then
      .int (waits id calls).length else .real) ∧
    (∃ field, r.retryRedirect = .int field ∧
      PackedRetry.unpack field = ((waits id calls).getLastD 0 % 2 ^ 28, redirects id calls % 16) ∧
      (field < 0 ↔ 8 ≤ redirects id calls % 16)) ∧
    (empty.run ops).recordRedirect id =
      .ok (redirects id (callsSinceStart id (ops ++ [.recordRedirect id])) % 16,
        empty.run (ops ++ [.recordRedirect id])) := by
  intro calls
  have hcounts : Counts id calls r := counts_of_find? ops h
  have hunpack := PackedRetry.unpack_pack ((waits id calls).getLastD 0) (redirects id calls)
  refine ⟨hcounts.numFailed, ⟨_, hcounts.retryRedirect, hunpack, PackedRetry.pack_neg_iff _ _⟩, ?_⟩
  have hcalls : callsSinceStart id (ops ++ [.recordRedirect id]) =
      calls ++ [.recordRedirect id] := by
    rw [callsSinceStart_concat, startsCounts_eq_false h fun _ _ hop => by cases hop]
    rfl
  rw [run_recordRedirect h hcounts.retryRedirect, hunpack, hcalls, run_concat]
  simp [redirects, List.count_append, PackedRetry.maxRedirects]

end

/-- A run that adds a download. -/
def addedRun : List Operation := [.insert { uri := "https://example.com/a" } 0]

/-- A download that is added and fails so many times. -/
def failedOnlyRun (n : Nat) : List Operation := addedRun ++ failuresInARow 1 n

/-- The stored count of failures is not their number once that number leaves the 64 bits. -/
theorem numFailed_ne_failedOnlyRun :
    let failures := (waits 1 (callsSinceStart 1 (failedOnlyRun (2 ^ 63)))).length
    failures = 2 ^ 63 ∧
      ∃ r, (empty.run (failedOnlyRun (2 ^ 63))).find? 1 = some r ∧ r.numFailed ≠ .int failures := by
  intro failures
  have hadded : ((empty.run addedRun).find? 1).isSome = true := by decide +kernel
  have hnone : waits 1 (callsSinceStart 1 addedRun) = [] := by decide +kernel
  obtain ⟨-, hcount⟩ := length_waits_failuresInARow hadded (2 ^ 63)
  obtain ⟨r, hr, hreal⟩ := exists_failuresInARow hadded hnone (2 ^ 63)
  rw [Cell.count_eq_real_iff.mpr (Nat.le_refl _)] at hreal
  rw [hnone, List.length_nil, Nat.zero_add] at hcount
  refine ⟨hcount, r, hr, fun hint => ?_⟩
  rw [hreal] at hint
  cases hint

/-- A run in which a success comes between two failures, and nine redirects after it. -/
def redirectedRun : List Operation :=
  [.insert { uri := "https://example.com/a" } 0, .markPausedForRetry 1 none 1,
    .markSuccess 1 ⟨5, "a", none⟩ 2] ++ List.replicate 9 (.recordRedirect 1) ++
  [.markPausedForRetry 1 (some (2 ^ 28 + 7)) 3, .setControl 1 .paused 4]

/-- The row that the run leaves. -/
def redirectedRow : Row :=
  { NewDownload.row { uri := "https://example.com/a" } 1 0 with
    control := .paused
    status := .int 193
    numFailed := .int 1
    retryRedirect := .int (-1879048185)
    lastModifiedMs := .int 4
    totalBytes := .int 5
    currentBytes := .int 5
    filePath := some "a" }

theorem retry_counts_of_redirectedRun :
    (empty.run redirectedRun).find? 1 = some redirectedRow ∧
      redirectedRow.numFailed = .int 1 ∧
      (∃ field, redirectedRow.retryRedirect = .int field ∧
        PackedRetry.unpack field = (7, 9) ∧ field < 0) ∧
      (empty.run redirectedRun).recordRedirect 1 =
        .ok (10, empty.run (redirectedRun ++ [.recordRedirect 1])) := by
  have hfind : (empty.run redirectedRun).find? 1 = some redirectedRow := by decide +kernel
  have hwaits : waits 1 (callsSinceStart 1 redirectedRun) = [2 ^ 28 + 7] := by decide +kernel
  have hredirects : redirects 1 (callsSinceStart 1 redirectedRun) = 9 := by decide +kernel
  have hnext : redirects 1 (callsSinceStart 1 (redirectedRun ++ [.recordRedirect 1])) = 10 := by
    decide +kernel
  obtain ⟨hn, ⟨field, hfield, hunpack, hsign⟩, hredirect⟩ := retry_counts_of_run redirectedRun hfind
  rw [hwaits, hredirects] at hunpack
  rw [hredirects] at hsign
  rw [hnext] at hredirect
  exact ⟨hfind, rfl, ⟨field, hfield, hunpack, hsign.mpr (by decide)⟩, hredirect⟩

end Store

end Downloads
