import Downloads.Proofs.Schedule.Listing
import Downloads.Proofs.Schedule.Report

/-!
# When to wake up

A tick asks to be repeated when the first of the waiting downloads is due. Readiness is strict in
the restart time and the delay is not, so a download that is due this very moment waits one more
millisecond (`Scheduler.delay`). Up to the wake-up no waiting download becomes ready, and one is
ready right after it, unless the delay stopped at the largest integer (`Scheduler.tick_wakes`).
-/

namespace Downloads

namespace Scheduler

variable {s : Scheduler} {now : Int} {r : Record}

theorem one_le_delay (s : Scheduler) (now : Int) (r : Record) : 1 ≤ s.delay now r :=
  Int.le_max_left 1 _

/-- The delay of a waiting download does not exceed the time to its restart, or one. -/
theorem delay_le (h : s.waits now r = true) :
    s.delay now r ≤ max 1 (s.backoff.restartTime r - now) := by
  obtain ⟨-, hle⟩ := restart_of_waits h
  simp only [delay, satSub, clamp64, minInt64, maxInt64]
  omega

/-- A delay that did not stop at the largest integer covers the time to the restart. -/
theorem le_delay (h : s.delay now r < maxInt64) :
    s.backoff.restartTime r - now ≤ s.delay now r := by
  simp only [delay, satSub, clamp64, minInt64, maxInt64] at *
  omega

/-- A waiting download is ready strictly after its restart time. -/
theorem ready_iff_of_waits (h : s.waits now r = true) (time : Int) :
    s.backoff.isReadyToStart r time = true ↔ s.backoff.restartTime r < time := by
  obtain ⟨hrun, hpaused, -⟩ := waits_iff.mp h
  obtain ⟨hfailed, -⟩ := restart_of_waits h
  simp [Backoff.isReadyToStart_eq, hrun, hpaused, Backoff.pausedReady_eq, hfailed]

/-- Before its delay is over, a waiting download is not ready. -/
theorem not_ready_before (h : s.waits now r = true) {time : Int}
    (htime : time < now + s.delay now r) : s.backoff.isReadyToStart r time = false := by
  have hdelay := delay_le h
  obtain ⟨-, hle⟩ := restart_of_waits h
  rw [Bool.eq_false_iff, ne_eq, ready_iff_of_waits h]
  omega

/-- A millisecond after its delay, a waiting download is ready. -/
theorem ready_after (h : s.waits now r = true) (hdelay : s.delay now r < maxInt64) :
    s.backoff.isReadyToStart r (now + s.delay now r + 1) = true := by
  have hle := le_delay hdelay
  rw [ready_iff_of_waits h]
  omega

/-- **The wake-up time.** A tick reports the least delay of the waiting downloads it listed, none if
nothing waits. Before the wake-up no waiting download is ready, and a millisecond after it one is,
unless the time to it was cut off. -/
theorem tick_wakes {σ : Type} [RecordStore σ] (s : Scheduler) (now : Int) {store : σ}
    {xs : List Snapshot} (h : RecordStore.snapshots store = .ok xs) (words : RandomWords)
    (notifier : Notifier) :
    let waiting := (Record.listed xs words).filter fun r =>
      r.control = .run ∧ r.status = .runningPaused ∧ s.backoff.isReadyToStart r now = false
    let delay := fun r => max 1 (satSub (s.backoff.restartTime r) now)
    match (s.tick now store words notifier).1 with
    | .error e =>
      (RecordStore.claimAll store (Scan.completions (Record.buildAll xs words))).1 = .error e
    | .ok t =>
      t.nextWakeupMs = (waiting.map delay).min? ∧
      (t.nextWakeupMs = none ↔ waiting = []) ∧
      ∀ w, t.nextWakeupMs = some w →
        1 ≤ w ∧ (∃ r ∈ waiting, delay r = w) ∧ (∀ r ∈ waiting, w ≤ delay r) ∧
        (∀ r ∈ waiting, ∀ time < now + w, s.backoff.isReadyToStart r time = false) ∧
        (w < maxInt64 → ∃ r ∈ waiting, s.backoff.isReadyToStart r (now + w + 1) = true) := by
  intro waiting delay
  have hwaiting : waiting = (Record.listed xs words).filter (s.waits now) :=
    List.filter_congr fun r _ => by rw [Bool.eq_iff_iff, decide_eq_true_eq, waits_iff]
  have hwaits : ∀ r ∈ waiting, s.waits now r = true := by
    rw [hwaiting]
    exact fun r hr => (List.mem_filter.mp hr).2
  rw [(s.tick_eq now h words notifier).1]
  rcases (RecordStore.claimAll store (Scan.completions (Record.buildAll xs words))).1
    with e | granted
  · rfl
  have hwakeup : (s.report now (Record.buildAll xs words) granted).nextWakeupMs =
      (waiting.map delay).min? := by
    rw [hwaiting]
    rfl
  refine ⟨hwakeup, ?_, fun w hw => ?_⟩
  · rw [hwakeup, List.min?_eq_none_iff, List.map_eq_nil_iff]
  rw [hwakeup, List.min?_eq_some_iff] at hw
  obtain ⟨hmem, hle⟩ := hw
  have hle : ∀ r ∈ waiting, w ≤ delay r := fun r hr => hle _ (List.mem_map_of_mem hr)
  obtain ⟨r₀, hr₀, rfl⟩ := List.mem_map.mp hmem
  refine ⟨s.one_le_delay now r₀, ⟨r₀, hr₀, rfl⟩, hle, fun r hr time htime => ?_, fun hw => ?_⟩
  · have hdelay : delay r₀ ≤ s.delay now r := hle r hr
    exact not_ready_before (hwaits r hr) (by omega)
  · exact ⟨r₀, hr₀, ready_after (hwaits r₀ hr₀) hw⟩

end Scheduler

/-- A scheduler without a network. -/
def offlineScheduler : Scheduler := ⟨.ofBase 30, .offline⟩

/-- Rows of which two wait, its caller stopped one, and one is ready. -/
def waitingStore : Store where
  rows :=
    [{ announcedDownload.row 1 0 with status := .int 193, numFailed := .int 3 },
      { announcedDownload.row 2 0 with status := .int 193, numFailed := .int 1 },
      { announcedDownload.row 3 0 with
        status := .int 193
        numFailed := .int 1
        retryRedirect := .int (PackedRetry.pack 10 0)
        control := .paused },
      announcedDownload.row 4 0]
  headers := []
  lastId := 4

theorem Scheduler.tick_wakes_waitingStore :
    RecordStore.snapshots waitingStore = .ok (waitingStore.rows.map waitingStore.view) ∧
      (offlineScheduler.tick (-5) waitingStore ⟨[], 0⟩ .log).1 =
        .ok { blockedOnNetwork := [4], nextWakeupMs := some 30005 } ∧
      ∃ r ∈ Record.listed (waitingStore.rows.map waitingStore.view) ⟨[], 0⟩,
        r.status = .runningPaused ∧ offlineScheduler.backoff.isReadyToStart r 30001 = true ∧
        ∀ time < 30000, offlineScheduler.backoff.isReadyToStart r time = false := by
  have hlisted : RecordStore.snapshots waitingStore =
      .ok (waitingStore.rows.map waitingStore.view) := by decide +kernel
  have hreport : (offlineScheduler.tick (-5) waitingStore ⟨[], 0⟩ .log).1 =
      .ok { blockedOnNetwork := [4], nextWakeupMs := some 30005 } := by decide +kernel
  have htick := offlineScheduler.tick_wakes (-5) hlisted ⟨[], 0⟩ .log
  rw [hreport] at htick
  obtain ⟨-, -, hwakeup⟩ := htick
  obtain ⟨-, -, -, hbefore, hafter⟩ := hwakeup 30005 rfl
  obtain ⟨r, hr, hready⟩ := hafter (by decide)
  obtain ⟨hmem, hwaits⟩ := List.mem_filter.mp hr
  exact ⟨hlisted, hreport, r, hmem, (of_decide_eq_true hwaits).2.1, hready, hbefore r hr⟩

end Downloads
