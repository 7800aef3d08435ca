import Downloads.Proofs.Schedule.Classes
import Downloads.Proofs.Schedule.Episodes
import Downloads.Proofs.Schedule.Pause

/-!
# Waiting for the network

A download that lost the network is paused, and its count of failures stays. But a paused download
waits for the network only if no failure is counted. If one is, it is held back by the pause of its
failures, whatever paused it. So a download that never failed starts when the network may be used,
and one that failed before is held back by a pause that counts from the loss of the network
(`Store.Reachable.decides_after_waiting`).
-/

namespace Downloads

/-! ## Records of waiting downloads -/

namespace Record

/-- The record as it is built with a jitter. -/
def withJitter (c : Record) (jitter : Nat) : Record := { c with jitterFuzz := jitter }

/-- The record of a download that waits for the network since a time. -/
def waiting (c : Record) (since : Int) : Record :=
  { c with status := .runningPaused, lastModificationTimeMillis := since }

end Record

namespace Backoff

variable {b : Backoff} {c : Record}

/-- A waiting download is held back if it failed before and the pause of its failures, which counts
from the loss of the network, is not over. -/
theorem pausedReady_waiting (b : Backoff) (c : Record) (since now : Int) (jitter : Nat) :
    b.pausedReady ((c.waiting since).withJitter jitter) now =
      (c.numFailedAttempts == 0 ||
        decide (satAdd since (b.pause (c.withJitter jitter)) < now)) := by
  rw [pausedReady_eq, restartTime_eq]
  rfl

theorem isReadyToStart_waiting (hrun : c.control = .run) (since now : Int) (jitter : Nat) :
    b.isReadyToStart ((c.waiting since).withJitter jitter) now =
      b.pausedReady ((c.waiting since).withJitter jitter) now := by
  rw [isReadyToStart_eq, Record.withJitter, Record.waiting, hrun]

theorem isReadyToRestart_waiting (hrun : c.control = .run) (since now : Int) (jitter : Nat) :
    b.isReadyToRestart ((c.waiting since).withJitter jitter) now =
      b.pausedReady ((c.waiting since).withJitter jitter) now := by
  rw [isReadyToRestart_eq, Record.withJitter, Record.waiting, hrun]

end Backoff

/-- A call that records the loss of the network changes the status and the time of a download, and
nothing else that is read of it. -/
theorem Store.Reachable.reads_markWaiting [Url.HostNames] {s : Store} (h : s.Reachable) {id : Int}
    {c : Record} (hc : s.Reads id c) (t : Int) :
    ∃ s', s.markWaiting id t = .ok s' ∧ s'.Reachable ∧ s'.Reads id (c.waiting t) := by
  refine h.reads_of_updateRow hc (.markWaiting id t) rfl (fun _ => rfl) ?_
  rintro r st n - - hn hle rfl
  exact ⟨.runningPaused, n, Status.storable_runningPaused, rfl, hn, hle, rfl⟩

/-! ## Decisions -/

namespace Scheduler

/-- The scheduler decides about a download by the jitter of its record: the decision answers both
questions about it, and a tick that can list the store lists the download to start accordingly. -/
structure Decides (sch : Scheduler) (now : Int) (s : Store) (id : Int) (d : Nat → Bool) : Prop where
  start : ∀ words, (sch.shouldStart s id now words).1 = .ok (d words.drawJitter.1)
  restart : ∀ words, (sch.shouldRestart s id now words).1 = .ok (d words.drawJitter.1)
  tick : ∀ words notifier, match (sch.tick now s words notifier).1 with
    | .error e => s.snapshots = .error e
    | .ok report => ∃ xs c, s.snapshots = .ok xs ∧ .ok c ∈ Record.buildAll xs words ∧
        c.id = id ∧ (id ∈ report.toStart ↔ d c.jitterFuzz = true)

variable {sch : Scheduler} {now : Int} {s : Store} {id : Int} {c : Record}

theorem load_of_reads (hc : s.Reads id c) (words : RandomWords) :
    load s id words = (.ok (c.withJitter words.drawJitter.1), words.drawJitter.2) := by
  obtain ⟨x, hx, hc⟩ := hc
  have hfound : RecordStore.snapshot? s id = .ok (some x) := hx
  simp only [load, hfound, Record.build_of_ok hc]
  rfl

/-- A tick that can list the store reports what it built of the listing. -/
theorem tick_eq_report (sch : Scheduler) (now : Int) {xs : List Snapshot}
    (hxs : s.snapshots = .ok xs) (words : RandomWords) (notifier : Notifier) :
    ∃ granted : List Int, granted.Sublist (sch.idsIn now .completed (Record.buildAll xs words)) ∧
      (sch.tick now s words notifier).1 =
        .ok (sch.report now (Record.buildAll xs words) granted) := by
  have hlisted : RecordStore.snapshots s = .ok xs := hxs
  obtain ⟨report, words', htick, -⟩ := sch.tick_of_snapshots now hxs words notifier
  have hreport := (sch.tick_eq now hlisted words notifier).1
  rw [htick] at hreport
  rcases hclaims : (RecordStore.claimAll s (Scan.completions (Record.buildAll xs words))).1
    with e | granted <;> rw [hclaims] at hreport <;> cases hreport
  have hgranted := RecordStore.claimAll_sublist s hclaims
  rw [completions_eq_idsIn sch now] at hgranted
  exact ⟨granted, hgranted, by rw [htick]⟩

/-- A tick lists a download to start if the record that it built of it is ready and the network may
be used for it. -/
theorem mem_toStart_of_reads [Url.HostNames] (h : s.Reachable) (hc : s.Reads id c)
    {xs : List Snapshot} (hxs : s.snapshots = .ok xs) (words : RandomWords) {granted : List Int}
    (hgranted : granted.Sublist (sch.idsIn now .completed (Record.buildAll xs words))) :
    ∃ jitter, .ok (c.withJitter jitter) ∈ Record.buildAll xs words ∧
      (id ∈ (sch.report now (Record.buildAll xs words) granted).toStart ↔
        sch.starts now (c.withJitter jitter) = true) := by
  have hids : (xs.filterMap Snapshot.id?).Nodup := by
    rw [s.ids_of_snapshots hxs]
    exact h.ordered.nodup
  -- The single snapshot of the download is the one that the listing has of it.
  obtain ⟨x, hx, hrecord⟩ := hc
  rw [s.snapshot?_of_snapshots hxs id, Except.ok.injEq] at hx
  have hid : x.id? = some id := by simpa using List.find?_some hx
  obtain ⟨b, hb⟩ := Record.exists_mem_zip_of_mem words (List.mem_of_find?_eq_some hx)
  have hmem := (sorts_report hids hgranted).mem_toStart x b id hb hid
  obtain ⟨words', rfl⟩ := Record.exists_build_of_mem_zip hb
  rw [Record.build_of_ok hrecord] at hb hmem
  refine ⟨words'.drawJitter.1, (List.of_mem_zip hb).2, hmem.trans ?_⟩
  simp [InClass, starts, Record.withJitter]

/-- A scheduler decides about a download that can be read by its record. -/
theorem decides_of_reads [Url.HostNames] (h : s.Reachable) (hc : s.Reads id c) {d : Nat → Bool}
    (hstart : ∀ jitter, (sch.backoff.isReadyToStart (c.withJitter jitter) now &&
      sch.networkAllows (c.withJitter jitter)) = d jitter)
    (hrestart : ∀ jitter, (sch.backoff.isReadyToRestart (c.withJitter jitter) now &&
      sch.networkAllows (c.withJitter jitter)) = d jitter) :
    sch.Decides now s id d := by
  constructor
  case start =>
    intro words
    simp only [shouldStart, load_of_reads hc, Except.map, hstart]
  case restart =>
    intro words
    simp only [shouldRestart, load_of_reads hc, Except.map, hrestart]
  case tick =>
    intro words notifier
    rcases hxs : s.snapshots with e | xs
    · rw [sch.tick_of_error now hxs]
    obtain ⟨granted, hgranted, htick⟩ := sch.tick_eq_report now hxs words notifier
    obtain ⟨jitter, hmem, hstarts⟩ := mem_toStart_of_reads h hc hxs words hgranted
    rw [htick]
    refine ⟨xs, c.withJitter jitter, rfl, hmem, hc.id_eq, hstarts.trans ?_⟩
    rw [starts, hstart]
    rfl

end Scheduler

namespace Store

/-- **Waiting for the network.** A download that its caller lets run and that can be read is there
right after the loss of the network was recorded, with the same count of failures. If the count is
zero, it starts whenever the network may be used. If not, it starts only when the pause of its
failures is over as well, and that pause counts from the call: at the time of the call nothing
starts it. -/
theorem Reachable.decides_after_waiting [Url.HostNames] {s : Store} (h : s.Reachable) {id : Int}
    {c : Record} (hc : s.Reads id c) (hrun : c.control = .run) (t : Int) :
    ∃ s', s.markWaiting id t = .ok s' ∧ s'.Reads id (c.waiting t) ∧
      ∀ (sch : Scheduler) (now : Int),
        let allowed := sch.connectivity.allows c.destination
        (c.numFailedAttempts = 0 → sch.Decides now s' id fun _ => allowed) ∧
        (c.numFailedAttempts ≠ 0 →
          (sch.Decides now s' id fun jitter =>
            allowed && decide (satAdd t (sch.backoff.pause (c.withJitter jitter)) < now)) ∧
          (t ≤ maxInt64 → now ≤ t → sch.Decides now s' id fun _ => false)) := by
  obtain ⟨s', hok, hreach, hwaiting⟩ := h.reads_markWaiting hc t
  refine ⟨s', hok, hwaiting, fun sch now => ?_⟩
  intro allowed
  have hdecides : ∀ d : Nat → Bool,
      (∀ jitter, (sch.backoff.pausedReady ((c.waiting t).withJitter jitter) now && allowed) =
        d jitter) → sch.Decides now s' id d := by
    intro d hd
    refine Scheduler.decides_of_reads hreach hwaiting (fun jitter => ?_) (fun jitter => ?_)
    · rw [Backoff.isReadyToStart_waiting hrun]
      exact hd jitter
    · rw [Backoff.isReadyToRestart_waiting hrun]
      exact hd jitter
  refine ⟨fun hzero => hdecides _ fun jitter => ?_, fun hfailed => ⟨hdecides _ fun jitter => ?_,
    fun ht hnow => hdecides _ fun jitter => ?_⟩⟩
  · rw [Backoff.pausedReady_waiting, hzero]
    rfl
  · rw [Backoff.pausedReady_waiting, beq_false_of_ne hfailed, Bool.false_or, Bool.and_comm]
  · -- A pause takes a millisecond at least, so it is not over when it begins.
    have hpause := sch.backoff.one_le_pause (c.withJitter jitter)
    have hheld : ¬ satAdd t (sch.backoff.pause (c.withJitter jitter)) < now := by
      simp only [satAdd, clamp64, minInt64, maxInt64] at ht ⊢
      omega
    rw [Backoff.pausedReady_waiting, beq_false_of_ne hfailed, decide_eq_false hheld]
    rfl

/-- A download that failed once and is due again after a minute at most. -/
def failedStore : Store :=
  .run .empty [.insert { uri := "https://example.com/a" } 0, .markPausedForRetry 1 none 0]

/-- The row of the download. -/
def failedRow : Row :=
  { NewDownload.row { uri := "https://example.com/a" } 1 0 with
    status := .int 193
    numFailed := .int 1 }

theorem reads_failedStore : failedStore.Reads 1 (failedRow.record .runningPaused 1 []) := by
  have hreach : failedStore.Reachable := ⟨_, rfl⟩
  have hrow : failedStore.find? 1 = some failedRow := by decide +kernel
  have hheaders : failedStore.headersOf failedRow.id = [] := by decide +kernel
  exact (hreach.reads_iff hrow nofun).mpr
    ⟨.runningPaused, 1, Status.storable_runningPaused, rfl, rfl, by decide, by rw [hheaders]⟩

/-- The download is due and the network may be used. Once it is said to wait for the network, it is
held back. -/
theorem not_decides_failedStore :
    failedStore.Reachable ∧ failedStore.Reads 1 (failedRow.record .runningPaused 1 []) ∧
      failedRow.control = .run ∧
      onlineScheduler.connectivity.allows failedRow.destination = true ∧
      (onlineScheduler.shouldStart failedStore 1 90000 ⟨[], 0⟩).1 = .ok true ∧
      ∃ s', failedStore.markWaiting 1 90000 = .ok s' ∧
        (onlineScheduler.shouldStart s' 1 90001 ⟨[], 0⟩).1 = .ok false ∧
        (onlineScheduler.shouldRestart s' 1 90001 ⟨[], 0⟩).1 = .ok false ∧
        (onlineScheduler.tick 90001 s' ⟨[], 0⟩ .log).1 = .ok { nextWakeupMs := some 29999 } ∧
        ¬ onlineScheduler.Decides 90001 s' 1 fun _ => true := by
  have hstart : (onlineScheduler.shouldStart (failedStore.after (.markWaiting 1 90000)) 1 90001
      ⟨[], 0⟩).1 = .ok false := by decide +kernel
  refine ⟨⟨_, rfl⟩, reads_failedStore, rfl, rfl, by decide +kernel,
    failedStore.after (.markWaiting 1 90000), by decide +kernel, hstart, by decide +kernel,
    by decide +kernel, fun hdecides => ?_⟩
  rw [hdecides.start ⟨[], 0⟩] at hstart
  cases hstart

theorem decides_after_waiting_failedStore :
    failedStore.Reachable ∧ failedStore.Reads 1 (failedRow.record .runningPaused 1 []) ∧
      ∃ s', failedStore.markWaiting 1 90000 = .ok s' ∧
        (onlineScheduler.Decides 90000 s' 1 fun _ => false) ∧
        (onlineScheduler.shouldStart s' 1 120001 ⟨[], 0⟩).1 = .ok true := by
  have hreach : failedStore.Reachable := ⟨_, rfl⟩
  obtain ⟨s', hok, -, hdecides⟩ := hreach.decides_after_waiting reads_failedStore rfl 90000
  obtain ⟨-, hheld⟩ := hdecides onlineScheduler 90000
  obtain ⟨-, hlater⟩ := hdecides onlineScheduler 120001
  obtain ⟨hover, -⟩ := hlater (by decide)
  refine ⟨hreach, reads_failedStore, s', hok, (hheld (by decide)).2 (by decide) (Int.le_refl _), ?_⟩
  rw [hover.start ⟨[], 0⟩]
  decide +kernel

end Store

end Downloads
