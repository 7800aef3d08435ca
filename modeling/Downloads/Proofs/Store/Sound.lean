import Downloads.Proofs.Store.Effect
import Mathlib.Algebra.Group.Nat.Defs
import Mathlib.Data.List.Nodup

/-!
# Sound stores

What holds of every store that came about by calls. Its rows stand by ascending id, none above the
largest id given so far, and each row is sound: its cells hold integers, its status is one that can
be read back, and the count of failures is an integer unless it left the 64 bits.
-/

namespace Downloads

namespace Cell

/-- The cell that was raised so many times from zero. Beyond 64 bits it holds no integer. -/
def count (n : Nat) : Cell := if (n : Int) ≤ maxInt64 then .int n else .real

theorem count_zero : count 0 = .int 0 := rfl

theorem succ_count (n : Nat) : (count n).succ = count (n + 1) := by
  unfold count
  by_cases h : (n : Int) ≤ maxInt64
  · rw [if_pos h]
    show (if (n : Int) < maxInt64 then Cell.int (n + 1) else .real) = _
    by_cases h' : (n : Int) < maxInt64
    · rw [if_pos h', if_pos (by omega)]
      rfl
    · rw [if_neg h', if_neg (by omega)]
  · rw [if_neg h, if_neg (by omega)]
    rfl

theorem count_eq_real_iff {n : Nat} : count n = .real ↔ 2 ^ 63 ≤ n := by
  unfold count maxInt64
  split
  · refine iff_of_false nofun ?_
    omega
  · refine iff_of_true rfl ?_
    omega

theorem eq_of_int {c : Cell} {n m : Nat} (h : c = .int n) (h' : c = .int m) : n = m := by
  rw [h, Cell.int.injEq] at h'
  exact Int.ofNat_inj.mp h'

end Cell

namespace Status

/-- A status that is read back as it was stored. -/
def Storable (st : Status) : Prop := ∀ c, st = .failed c → isFailureCode c.toNat = true

theorem storable_of_not_failed {st : Status} (h : ∀ c, st ≠ .failed c) : st.Storable :=
  fun c hc => absurd hc (h c)

theorem storable_pending : pending.Storable := storable_of_not_failed nofun

theorem storable_runningPaused : runningPaused.Storable := storable_of_not_failed nofun

theorem storable_success : success.Storable := storable_of_not_failed nofun

theorem storable_failed {code : UInt16} (h : isFailureCode code.toNat = true) :
    (failed code).Storable := by
  rintro c hc
  cases hc
  exact h

/-- A cell holds at most one status. -/
theorem eq_of_code {c : Cell} {st st' : Status} (hst : st.Storable) (hst' : st'.Storable)
    (h : c = .int st.code) (h' : c = .int st'.code) : st = st' := by
  rw [h, Cell.int.injEq] at h'
  have hread := ofCode?_code hst
  rw [h', ofCode?_code hst'] at hread
  exact (Option.some.inj hread).symm

theorem ne_code {c : Cell} {st st' : Status} (hst : st.Storable) (hst' : st'.Storable)
    (h : c = .int st.code) (hne : st ≠ st') : c ≠ .int st'.code :=
  fun h' => hne (eq_of_code hst hst' h h')

end Status

/-- The row is as calls on the store leave it. -/
structure Row.Sound (r : Row) : Prop where
  status : ∃ st : Status, st.Storable ∧ r.status = .int st.code
  numFailed : ∃ n, r.numFailed = .count n
  retryRedirect : ∃ n, r.retryRedirect = .int n
  lastModifiedMs : ∃ n, r.lastModifiedMs = .int n
  totalBytes : ∃ n, r.totalBytes = .int n
  currentBytes : ∃ n, r.currentBytes = .int n
  mediaScanned : ∃ n, r.mediaScanned = .int n
  visibleInUi : ∃ n, r.visibleInUi = .int n
  completionNotified : r.completionNotified = .int 0 ∨ r.completionNotified = .int 1

theorem NewDownload.sound_row (d : NewDownload) (id now : Int) : (d.row id now).Sound where
  status := ⟨.pending, Status.storable_pending, rfl⟩
  numFailed := ⟨0, rfl⟩
  retryRedirect := ⟨0, rfl⟩
  lastModifiedMs := ⟨now, rfl⟩
  totalBytes := ⟨-1, rfl⟩
  currentBytes := ⟨0, rfl⟩
  mediaScanned := ⟨0, rfl⟩
  visibleInUi := ⟨_, rfl⟩
  completionNotified := .inl rfl

namespace Row.Sound

variable {r : Row}

theorem withStatus (h : r.Sound) {st : Status} (hst : st.Storable) (now : Int) :
    (r.withStatus st now).Sound :=
  ⟨⟨st, hst, rfl⟩, h.numFailed, h.retryRedirect, ⟨now, rfl⟩, h.totalBytes, h.currentBytes,
    h.mediaScanned, h.visibleInUi, h.completionNotified⟩

theorem pausedForRetry (h : r.Sound) (field now : Int) : (r.pausedForRetry field now).Sound := by
  obtain ⟨n, hn⟩ := h.numFailed
  refine ⟨⟨.runningPaused, Status.storable_runningPaused, rfl⟩, ⟨n + 1, ?_⟩, ⟨field, rfl⟩,
    ⟨now, rfl⟩, h.totalBytes, h.currentBytes, h.mediaScanned, h.visibleInUi, h.completionNotified⟩
  show r.numFailed.succ = _
  rw [hn, Cell.succ_count]

theorem failed (h : r.Sound) {code : UInt16} (hc : Status.isFailureCode code.toNat = true)
    (now : Int) : (r.failed code now).Sound :=
  ⟨⟨.failed code, Status.storable_failed hc, rfl⟩, h.numFailed, h.retryRedirect, ⟨now, rfl⟩,
    h.totalBytes, h.currentBytes, h.mediaScanned, h.visibleInUi, .inl rfl⟩

theorem succeeded (h : r.Sound) (p : CompletedPayload) (now : Int) : (r.succeeded p now).Sound := by
  refine ⟨⟨.success, Status.storable_success, rfl⟩, ⟨0, rfl⟩, ⟨0, rfl⟩, ⟨now, rfl⟩, ⟨_, rfl⟩, ?_,
    h.mediaScanned, h.visibleInUi, .inl rfl⟩
  show ∃ n, (if 0 ≤ p.totalBytes then Cell.int p.totalBytes else r.currentBytes) = .int n
  split
  · exact ⟨_, rfl⟩
  · exact h.currentBytes

theorem change {op : Operation} {r' : Row} (h : r.Sound) (hc : op.change r = some r') :
    r'.Sound := by
  cases op with
  | insert | addHeader => exact Option.some.inj hc ▸ h
  | delete => cases hc
  | setControl i control now =>
    obtain rfl := Option.some.inj hc
    exact ⟨h.status, h.numFailed, h.retryRedirect, ⟨now, rfl⟩, h.totalBytes, h.currentBytes,
      h.mediaScanned, h.visibleInUi, h.completionNotified⟩
  | markRunning i now =>
    obtain rfl := Option.some.inj hc
    exact h.withStatus (fun _ h => by cases h) now
  | markWaiting i now =>
    obtain rfl := Option.some.inj hc
    exact h.withStatus Status.storable_runningPaused now
  | markPausedForRetry i retryAfter now =>
    simp only [Operation.change] at hc
    split at hc
    · exact Option.some.inj hc ▸ h
    · exact Option.some.inj hc ▸ h.pausedForRetry _ _
  | recordRedirect i =>
    simp only [Operation.change] at hc
    split at hc
    · exact Option.some.inj hc ▸ h
    · obtain rfl := Option.some.inj hc
      exact ⟨h.status, h.numFailed, ⟨_, rfl⟩, h.lastModifiedMs, h.totalBytes, h.currentBytes,
        h.mediaScanned, h.visibleInUi, h.completionNotified⟩
  | markFailed i code now =>
    obtain rfl := Option.some.inj hc
    by_cases hcode : Status.isFailureCode code.toNat = true
    · rw [if_pos hcode]
      exact h.failed hcode now
    · rwa [if_neg hcode]
  | markSuccess i payload now =>
    obtain rfl := Option.some.inj hc
    exact h.succeeded payload now
  | updateProgress i current total =>
    obtain rfl := Option.some.inj hc
    exact ⟨h.status, h.numFailed, h.retryRedirect, h.lastModifiedMs, ⟨_, rfl⟩, ⟨_, rfl⟩,
      h.mediaScanned, h.visibleInUi, h.completionNotified⟩
  | claimCompletionNotice i =>
    obtain rfl := Option.some.inj hc
    split
    · exact ⟨h.status, h.numFailed, h.retryRedirect, h.lastModifiedMs, h.totalBytes, h.currentBytes,
        h.mediaScanned, h.visibleInUi, .inr rfl⟩
    · exact h

end Row.Sound

namespace Store

/-- The rows stand by ascending id, and no id exceeds the largest that was given. -/
structure Ordered (s : Store) : Prop where
  ascending : (s.rows.map (·.id)).Pairwise (· < ·)
  le_lastId : ∀ r ∈ s.rows, r.id ≤ s.lastId

theorem ordered_empty : Ordered empty := ⟨.nil, fun _ h => by cases h⟩

theorem Ordered.after [Url.HostNames] {s : Store} (h : s.Ordered) (op : Operation) :
    (s.after op).Ordered := by
  rcases ids_after s op with ⟨hlast, hsub⟩ | ⟨i, hi, hlt, hlast, hids⟩
  · refine ⟨h.ascending.sublist hsub, fun r hr => ?_⟩
    obtain ⟨r₀, hr₀, hid⟩ := List.mem_map.mp (hsub.subset (List.mem_map_of_mem hr))
    rw [hlast, ← hid]
    exact h.le_lastId r₀ hr₀
  · refine ⟨?_, fun r hr => ?_⟩
    · rw [hids, List.pairwise_append]
      refine ⟨h.ascending, List.pairwise_singleton _ _, fun a ha b hb => ?_⟩
      obtain ⟨r, hr, rfl⟩ := List.mem_map.mp ha
      rw [List.mem_singleton.mp hb]
      exact hlt r hr
    · have hmem : r.id ∈ s.rows.map (·.id) ++ [i] := hids ▸ List.mem_map_of_mem hr
      rw [hlast]
      rcases List.mem_append.mp hmem with hold | hnew
      · obtain ⟨r₀, hr₀, hid⟩ := List.mem_map.mp hold
        rw [← hid]
        exact Int.le_of_lt (hlt r₀ hr₀)
      · exact Int.le_of_eq (List.mem_singleton.mp hnew)

theorem Ordered.nodup {s : Store} (h : s.Ordered) : (s.rows.map (·.id)).Nodup :=
  h.ascending.imp Int.ne_of_lt

/-- A row is what its id finds. -/
theorem Ordered.find?_eq_some {s : Store} (h : s.Ordered) {r : Row} (hr : r ∈ s.rows) :
    s.find? r.id = some r := by
  rcases hf : s.find? r.id with _ | r'
  · exact absurd rfl (find?_eq_none_iff.mp hf r hr)
  · rw [List.inj_on_of_nodup_map h.nodup (mem_of_find? hf) hr (id_of_find? hf)]

theorem Ordered.id_le_lastId {s : Store} (h : s.Ordered) {id : Int} {r : Row}
    (hr : s.find? id = some r) : id ≤ s.lastId := by
  have hle := h.le_lastId r (mem_of_find? hr)
  rwa [id_of_find? hr] at hle

/-- The ids given so far are positive integers of 64 bits. -/
structure InRange (s : Store) : Prop where
  nonneg : 0 ≤ s.lastId
  le_maxInt64 : s.lastId ≤ maxInt64
  pos : ∀ r ∈ s.rows, 0 < r.id

theorem inRange_empty : InRange empty := ⟨by decide, by decide, fun _ h => by cases h⟩

variable [Url.HostNames]

theorem lastId_after_le (s : Store) (op : Operation) (h : s.lastId ≤ maxInt64) :
    (s.after op).lastId ≤ maxInt64 := by
  generalize hs' : s.after op = s'
  have hacts := acts_after s op
  rw [hs'] at hacts
  cases hacts with
  | add hop hins =>
    obtain ⟨hid, -, hlast, -⟩ := insert_eq_ok hins
    rw [hlast]
    simp only [nextId] at hid
    split at hid <;> cases hid
    omega
  | none | header | remove | rewrite => exact h

theorem InRange.after {s : Store} (h : s.InRange) (op : Operation) : (s.after op).InRange := by
  have hnonneg := h.nonneg
  refine ⟨Int.le_trans hnonneg (lastId_le_after s op), lastId_after_le s op h.le_maxInt64, ?_⟩
  intro r hr
  have hmem : r.id ∈ (s.after op).rows.map (·.id) := List.mem_map_of_mem hr
  rcases ids_after s op with ⟨-, hsub⟩ | ⟨i, hi, -, -, hids⟩
  · obtain ⟨r₀, hr₀, hid⟩ := List.mem_map.mp (hsub.subset hmem)
    exact hid ▸ h.pos r₀ hr₀
  · rw [hids] at hmem
    rcases List.mem_append.mp hmem with hold | hnew
    · obtain ⟨r₀, hr₀, hid⟩ := List.mem_map.mp hold
      exact hid ▸ h.pos r₀ hr₀
    · rw [List.mem_singleton.mp hnew]
      omega

namespace Reachable

variable {s : Store}

theorem ordered (h : s.Reachable) : s.Ordered :=
  h.induction ordered_empty fun _ op _ ih => ih.after op

theorem inRange (h : s.Reachable) : s.InRange :=
  h.induction inRange_empty fun _ op _ ih => ih.after op

/-- The id of a download is a positive integer of 64 bits. -/
theorem id_inRange (h : s.Reachable) {id : Int} {r : Row} (hr : s.find? id = some r) :
    0 < id ∧ id ≤ maxInt64 := by
  have hpos := h.inRange.pos r (mem_of_find? hr)
  rw [id_of_find? hr] at hpos
  exact ⟨hpos, Int.le_trans (h.ordered.id_le_lastId hr) h.inRange.le_maxInt64⟩

theorem sound (h : s.Reachable) {id : Int} {r : Row} (hr : s.find? id = some r) : r.Sound :=
  h.row_induction NewDownload.sound_row (fun _ _ _ => Row.Sound.change) id r hr

theorem sound_of_mem (h : s.Reachable) {r : Row} (hr : r ∈ s.rows) : r.Sound :=
  h.sound (h.ordered.find?_eq_some hr)

end Reachable

end Store

end Downloads
