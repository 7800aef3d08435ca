import Downloads.Proofs.Schedule.Readiness
import Downloads.Proofs.Schedule.Waiting
import Downloads.Proofs.Schedule.Wakeup
import Downloads.Proofs.Store.RetryCounts

/-!
# Retry windows

Every record that is built draws its own jitter, so one question about a download may be answered
differently each time it is asked. Yet all its restart times lie in one window: at its start the
base is stretched by nothing, and at its end it is doubled. Up to the start of the window nothing
retries the download, after its end everything does, and a tick that does not start it asks to be
repeated no later than at the end (`Store.retries_in_window`). Only a store that holds more failures
of a download than 64 bits can count has no answer for a tick.
-/

namespace Downloads

/-! ## Jitter -/

/-- A record of a listing has a jitter of its range, whatever was drawn before it. -/
theorem Record.jitterFuzz_le_of_mem {xs : List Snapshot} {words : RandomWords} {r : Record}
    (h : .ok r ∈ buildAll xs words) : r.jitterFuzz ≤ RandomWords.maxJitter := by
  induction xs generalizing words with
  | nil => cases h
  | cons x xs ih =>
    rw [buildAll, List.mem_cons] at h
    obtain hfirst | hrest := h
    · rcases hx : ofSnapshot x with e | r'
      · rw [build_of_error hx] at hfirst
        cases hfirst
      · rw [build_of_ok hx, Except.ok.injEq] at hfirst
        rw [hfirst]
        exact words.drawJitter_le
    · exact ih hrest

namespace Backoff

/-- The restart time after so many failures, the last of them at a time, if each second of the base
is stretched to so many milliseconds. -/
def edge (b : Backoff) (failures : Nat) (time scale : Int) : Int :=
  min maxInt64 (time + min maxInt64 (b.baseDelay * scale * 2 ^ (failures - 1)))

/-- The restart times of a record lie in its window, whatever jitter is drawn. -/
theorem restartTime_mem_window {b : Backoff} {c : Record} {jitter : Nat}
    (hmin : minInt64 ≤ c.lastModificationTimeMillis) (hnone : c.retryAfterSeconds = 0)
    (hjitter : jitter ≤ RandomWords.maxJitter) :
    b.edge c.numFailedAttempts c.lastModificationTimeMillis 1000 ≤
        b.restartTime (c.withJitter jitter) ∧
      b.restartTime (c.withJitter jitter) ≤
        b.edge c.numFailedAttempts c.lastModificationTimeMillis 2000 := by
  have hbase : 0 ≤ b.baseDelay := Int.le_trans (by decide) b.one_le_baseDelay
  have hscale : (1000 : Int) ≤ 1000 + (jitter : Int) ∧ 1000 + (jitter : Int) ≤ 2000 := by
    unfold RandomWords.maxJitter at hjitter
    omega
  obtain ⟨hleast, hlargest⟩ := hscale
  rw [restartTime_of_failures (c := c.withJitter jitter) hmin hnone]
  unfold edge exactPause
  simp only [Record.withJitter]
  constructor <;> gcongr

end Backoff

/-! ## Decisions -/

/-- The row is that of a download that is let run and stopped on the way with so many failures
behind it, for which no server asked for a wait. It changed last at the time. -/
structure Row.AwaitsRetry (r : Row) (failures : Nat) (time : Int) : Prop where
  control : r.control = .run
  status : r.status = .int Status.runningPaused.code
  numFailed : r.numFailed = .int failures
  failed : 1 ≤ failures
  fits : failures < 2 ^ 32
  noWait : ∃ field, r.retryRedirect = .int field ∧ (PackedRetry.unpack field).1 = 0
  lastModified : r.lastModifiedMs = .int time
  /-- Times have 64 bits. -/
  le_time : minInt64 ≤ time

/-- The record of a download that waits for its retry, as far as decisions depend on it. -/
structure Record.AwaitsRetry (c : Record) (failures : Nat) (time : Int) : Prop where
  control : c.control = .run
  status : c.status = .runningPaused
  numFailed : c.numFailedAttempts = failures
  failed : failures ≠ 0
  noWait : c.retryAfterSeconds = 0
  lastModified : c.lastModificationTimeMillis = time
  le_time : minInt64 ≤ time

theorem Store.Reachable.reads_of_awaitsRetry [Url.HostNames] {s : Store} (h : s.Reachable)
    {id : Int} {r : Row} (hr : s.find? id = some r) {failures : Nat} {time : Int}
    (hw : r.AwaitsRetry failures time) :
    ∃ c, s.Reads id c ∧ c.AwaitsRetry failures time ∧ c.destination = r.destination := by
  have hreal : r.numFailed ≠ .real := by rw [hw.numFailed]; nofun
  have hfits : (failures : Int) ≤ Record.maxFailures := by
    have hlt := hw.fits
    unfold Record.maxFailures
    omega
  refine ⟨r.record .runningPaused failures (s.headersOf r.id), (h.reads_iff hr hreal).mpr
    ⟨.runningPaused, failures, Status.storable_runningPaused, hw.status, hw.numFailed, hfits, rfl⟩,
    ?_, rfl⟩
  obtain ⟨field, hfield, hzero⟩ := hw.noWait
  constructor
  case control => exact hw.control
  case status => rfl
  case numFailed => rfl
  case failed => exact Nat.one_le_iff_ne_zero.mp hw.failed
  case noWait =>
    show (PackedRetry.unpack r.retryRedirect.number).1 = 0
    rw [hfield]
    exact hzero
  case lastModified =>
    show r.lastModifiedMs.number = time
    rw [hw.lastModified]
    rfl
  case le_time => exact hw.le_time

namespace Record.AwaitsRetry

variable {c : Record} {failures : Nat} {time now : Int} {jitter : Nat} {b : Backoff}

theorem withJitter (h : c.AwaitsRetry failures time) (jitter : Nat) :
    (c.withJitter jitter).AwaitsRetry failures time :=
  ⟨h.control, h.status, h.numFailed, h.failed, h.noWait, h.lastModified, h.le_time⟩

theorem isReadyToStart_eq (h : c.AwaitsRetry failures time) :
    b.isReadyToStart c now = decide (b.restartTime c < now) :=
  Backoff.isReadyToStart_of_failed h.control h.status (h.numFailed ▸ h.failed) now

theorem isReadyToRestart_eq (h : c.AwaitsRetry failures time) :
    b.isReadyToRestart c now = decide (b.restartTime c < now) :=
  Backoff.isReadyToRestart_of_failed h.control h.status (h.numFailed ▸ h.failed) now

theorem restartTime_mem_window (h : c.AwaitsRetry failures time)
    (hjitter : jitter ≤ RandomWords.maxJitter) :
    b.edge failures time 1000 ≤ b.restartTime (c.withJitter jitter) ∧
      b.restartTime (c.withJitter jitter) ≤ b.edge failures time 2000 := by
  have hwindow := Backoff.restartTime_mem_window (b := b) (c := c) (h.lastModified ▸ h.le_time)
    h.noWait hjitter
  rwa [h.numFailed, h.lastModified] at hwindow

/-- Up to the start of the window, no jitter makes the restart time pass. -/
theorem held_of_le (h : c.AwaitsRetry failures time) (hjitter : jitter ≤ RandomWords.maxJitter)
    (hnow : now ≤ b.edge failures time 1000) :
    decide (b.restartTime (c.withJitter jitter) < now) = false := by
  obtain ⟨hle, -⟩ := h.restartTime_mem_window (b := b) hjitter
  exact decide_eq_false (by omega)

/-- After the end of the window, every jitter makes the restart time pass. -/
theorem ready_of_lt (h : c.AwaitsRetry failures time) (hjitter : jitter ≤ RandomWords.maxJitter)
    (hnow : b.edge failures time 2000 < now) :
    decide (b.restartTime (c.withJitter jitter) < now) = true := by
  obtain ⟨-, hle⟩ := h.restartTime_mem_window (b := b) hjitter
  exact decide_eq_true (by omega)

end Record.AwaitsRetry

namespace Scheduler

variable {sch : Scheduler} {now : Int} {r : Record}

/-- A report wakes up no later than one of the waiting downloads asks for. -/
theorem exists_wakeup_le {built : List (Except RecordError Record)} (hr : .ok r ∈ built)
    (hw : sch.waits now r = true) (granted : List Int) :
    ∃ w, (sch.report now built granted).nextWakeupMs = some w ∧ w ≤ sch.delay now r := by
  have hmem : sch.delay now r ∈
      ((built.filterMap Except.toOption).filter (sch.waits now)).map (sch.delay now) :=
    List.mem_map_of_mem (List.mem_filter.mpr ⟨List.mem_filterMap.mpr ⟨.ok r, hr, rfl⟩, hw⟩)
  unfold report
  simp only
  generalize ((built.filterMap Except.toOption).filter (sch.waits now)).map (sch.delay now) = delays
    at hmem
  rcases hmin : delays.min? with _ | w
  · rw [List.min?_eq_none_iff.mp hmin] at hmem
    cases hmem
  · exact ⟨w, rfl, (List.min?_eq_some_iff.mp hmin).2 _ hmem⟩

end Scheduler

namespace Store

open Operation

section

variable [Url.HostNames]

/-- After the calls, the failures of each download since it was added or last succeeded can be
counted with 64 bits. -/
def FailuresFit (ops : List Operation) : Prop :=
  ∀ id r, (empty.run ops).find? id = some r → (waits id (callsSinceStart id ops)).length < 2 ^ 63

theorem failuresFit_iff {ops : List Operation} :
    FailuresFit ops ↔ ∀ r ∈ (empty.run ops).rows, r.numFailed ≠ .real := by
  have hordered : (empty.run ops).Ordered := Reachable.ordered ⟨ops, rfl⟩
  exact hordered.length_waits_lt_iff fun _ _ => counts_of_find? ops

/-- **The retry window.** A download that is let run and stopped on the way after a failure, for
which no server asked for a wait, has a window that the failures, the time of the last change and
the base fix. Whatever words were drawn and are drawn, no scheduler whose network allows the
download retries it up to the start of the window, and every one does after its end. As long as a
tick does not start it, the tick asks to be repeated at the end of the window at the latest. A tick
gives a report if and only if the failures of each download can be counted with 64 bits. -/
theorem retries_in_window (ops : List Operation) {id : Int} {r : Row}
    (hr : (empty.run ops).find? id = some r) {failures : Nat} {time : Int}
    (hw : r.AwaitsRetry failures time) (sch : Scheduler)
    (hnetwork : sch.connectivity.allows r.destination = true) (now : Int) (words : RandomWords)
    (notifier : Notifier) :
    let s := empty.run ops
    let least := sch.backoff.edge failures time 1000
    let largest := sch.backoff.edge failures time 2000
    (now ≤ least → (sch.shouldStart s id now words).1 = .ok false ∧
      (sch.shouldRestart s id now words).1 = .ok false) ∧
    (largest < now → (sch.shouldStart s id now words).1 = .ok true ∧
      (sch.shouldRestart s id now words).1 = .ok true) ∧
    (FailuresFit ops → ∃ report, (sch.tick now s words notifier).1 = .ok report ∧
      (now ≤ least → id ∉ report.toStart) ∧ (largest < now → id ∈ report.toStart) ∧
      (id ∉ report.toStart →
        ∃ w, report.nextWakeupMs = some w ∧ w ≤ max 1 (satSub largest now))) ∧
    (¬ FailuresFit ops → (sch.tick now s words notifier).1 =
      .error (.database (.notAnInteger Column.numFailed.index true .real))) := by
  intro s least largest
  have hreach : s.Reachable := ⟨ops, rfl⟩
  obtain ⟨c, hc, hwaits, hdestination⟩ := hreach.reads_of_awaitsRetry hr hw
  have hallowed : ∀ jitter, sch.networkAllows (c.withJitter jitter) = true := by
    intro jitter
    show sch.connectivity.allows c.destination = true
    rw [hdestination, hnetwork]
  have hstart : (sch.shouldStart s id now words).1 =
      .ok (decide (sch.backoff.restartTime (c.withJitter words.drawJitter.1) < now)) := by
    simp only [Scheduler.shouldStart, Scheduler.load_of_reads hc, Except.map, hallowed,
      Bool.and_true, (hwaits.withJitter _).isReadyToStart_eq]
  have hrestart : (sch.shouldRestart s id now words).1 =
      .ok (decide (sch.backoff.restartTime (c.withJitter words.drawJitter.1) < now)) := by
    simp only [Scheduler.shouldRestart, Scheduler.load_of_reads hc, Except.map, hallowed,
      Bool.and_true, (hwaits.withJitter _).isReadyToRestart_eq]
  have hjitter := words.drawJitter_le
  refine ⟨fun hnow => ?_, fun hnow => ?_, fun hfit => ?_, fun hfit => ?_⟩
  · rw [hstart, hrestart, hwaits.held_of_le hjitter hnow]
    exact ⟨rfl, rfl⟩
  · rw [hstart, hrestart, hwaits.ready_of_lt hjitter hnow]
    exact ⟨rfl, rfl⟩
  · have hxs : s.snapshots = .ok (s.rows.map s.view) :=
      hreach.snapshots_eq_ok_iff.mpr ⟨failuresFit_iff.mp hfit, rfl⟩
    obtain ⟨granted, hgranted, htick⟩ := sch.tick_eq_report now hxs words notifier
    obtain ⟨jitter, hmem, hstarts⟩ := Scheduler.mem_toStart_of_reads hreach hc hxs words hgranted
    -- The jitter of the tick is another one, but it comes from the same range.
    have hjitter : jitter ≤ RandomWords.maxJitter := Record.jitterFuzz_le_of_mem hmem
    have hready : sch.backoff.isReadyToStart (c.withJitter jitter) now = _ :=
      (hwaits.withJitter jitter).isReadyToStart_eq
    rw [Scheduler.starts, hallowed, Bool.and_true, hready] at hstarts
    refine ⟨_, htick, fun hnow => ?_, fun hnow => ?_, fun hheld => ?_⟩
    · rw [hstarts, hwaits.held_of_le hjitter hnow]
      decide
    · rw [hstarts, hwaits.ready_of_lt hjitter hnow]
    · rw [hstarts, Bool.not_eq_true] at hheld
      have hw : sch.waits now (c.withJitter jitter) = true :=
        Scheduler.waits_iff.mpr ⟨hwaits.control, hwaits.status, hready.trans hheld⟩
      obtain ⟨w, hw, hle⟩ := Scheduler.exists_wakeup_le hmem hw granted
      obtain ⟨-, hedge⟩ := hwaits.restartTime_mem_window (b := sch.backoff) hjitter
      refine ⟨w, hw, hle.trans ?_⟩
      simp only [Scheduler.delay, satSub, clamp64, minInt64, maxInt64]
      omega
  · have hreal : ∃ r ∈ s.rows, r.numFailed = .real := by
      simpa [failuresFit_iff] using hfit
    rw [sch.tick_of_error now (hreach.snapshots_of_real hreal)]

end

/-! ## Failures beyond 64 bits -/

/-- A download that failed once, and a new one. -/
def failedPairRun : List Operation :=
  [.insert { uri := "https://example.com/a" } 0, .markPausedForRetry 1 none 0,
    .insert { uri := "https://example.com/a" } 0]

/-- Two downloads, of which the first fails once and the second so many times in a row. -/
def failingRun (n : Nat) : List Operation := failedPairRun ++ failuresInARow 2 n

theorem find?_failingRun (n : Nat) :
    (empty.run (failingRun n)).find? 1 = some failedRow ∧
      ∃ r, (empty.run (failingRun n)).find? 2 = some r ∧ r.numFailed = .count n := by
  have hfirst : (empty.run failedPairRun).find? 1 = some failedRow := by decide +kernel
  have hsecond : ((empty.run failedPairRun).find? 2).isSome = true := by decide +kernel
  have hnone : waits 2 (callsSinceStart 2 failedPairRun) = [] := by decide +kernel
  exact ⟨find?_failuresInARow_of_ne (by decide) hfirst n, exists_failuresInARow hsecond hnone n⟩

theorem awaitsRetry_failedRow : failedRow.AwaitsRetry 1 0 where
  control := rfl
  status := rfl
  numFailed := rfl
  failed := Nat.le_refl 1
  fits := by decide
  noWait := ⟨0, rfl, by decide⟩
  lastModified := rfl
  le_time := by decide

/-- The first download is due. No tick starts it, as the failures of the second cannot be read. -/
theorem not_starts_failingRun :
    let s := empty.run (failingRun (2 ^ 63))
    s.find? 1 = some failedRow ∧ failedRow.AwaitsRetry 1 0 ∧
      onlineScheduler.connectivity.allows failedRow.destination = true ∧
      onlineScheduler.backoff.edge 1 0 2000 < 90001 ∧
      ¬ ∃ report, (onlineScheduler.tick 90001 s ⟨[], 0⟩ .log).1 = .ok report ∧
        1 ∈ report.toStart := by
  intro s
  obtain ⟨hfirst, r, hr, hcount⟩ := find?_failingRun (2 ^ 63)
  have hreach : s.Reachable := ⟨_, rfl⟩
  have hreal : ∃ r ∈ s.rows, r.numFailed = .real :=
    ⟨r, mem_of_find? hr, hcount.trans (Cell.count_eq_real_iff.mpr (Nat.le_refl _))⟩
  refine ⟨hfirst, awaitsRetry_failedRow, rfl, by decide +kernel, ?_⟩
  rintro ⟨report, htick, -⟩
  rw [onlineScheduler.tick_of_error 90001 (hreach.snapshots_of_real hreal)] at htick
  cases htick

/-- A run after which the first download draws its jitter before the second one, which failed
twice. -/
def twiceFailedRun : List Operation :=
  [.insert { uri := "https://example.com/a" } 0, .insert { uri := "https://example.com/a" } 0,
    .markPausedForRetry 2 none 0, .markPausedForRetry 2 none 100]

/-- The row of the second download. -/
def twiceFailedRow : Row :=
  { NewDownload.row { uri := "https://example.com/a" } 2 0 with
    status := .int 193
    numFailed := .int 2
    lastModifiedMs := .int 100 }

theorem retries_in_window_twiceFailedRun :
    (empty.run twiceFailedRun).find? 2 = some twiceFailedRow ∧ twiceFailedRow.AwaitsRetry 2 100 ∧
      onlineScheduler.connectivity.allows twiceFailedRow.destination = true ∧
      FailuresFit twiceFailedRun ∧
      ∀ words : RandomWords,
        (onlineScheduler.shouldStart (empty.run twiceFailedRun) 2 60100 words).1 = .ok false ∧
        (onlineScheduler.shouldRestart (empty.run twiceFailedRun) 2 120101 words).1 = .ok true ∧
        ∃ report,
          (onlineScheduler.tick 60100 (empty.run twiceFailedRun) words .log).1 = .ok report ∧
          2 ∉ report.toStart ∧ ∃ w, report.nextWakeupMs = some w ∧ w ≤ 60000 := by
  have hr : (empty.run twiceFailedRun).find? 2 = some twiceFailedRow := by decide +kernel
  have hw : twiceFailedRow.AwaitsRetry 2 100 :=
    ⟨rfl, rfl, rfl, by decide, by decide, ⟨0, rfl, by decide⟩, rfl, by decide⟩
  have hfit : FailuresFit twiceFailedRun := failuresFit_iff.mpr (by decide +kernel)
  have hleast : onlineScheduler.backoff.edge 2 100 1000 = 60100 := by decide +kernel
  have hlargest : onlineScheduler.backoff.edge 2 100 2000 = 120100 := by decide +kernel
  refine ⟨hr, hw, rfl, hfit, fun words => ?_⟩
  obtain ⟨hbefore, -, htick, -⟩ :=
    retries_in_window twiceFailedRun hr hw onlineScheduler rfl 60100 words .log
  obtain ⟨-, hafter, -⟩ :=
    retries_in_window twiceFailedRun hr hw onlineScheduler rfl 120101 words .log
  rw [hleast] at hbefore htick
  rw [hlargest] at hafter htick
  obtain ⟨report, hreport, hheld, -, hwakeup⟩ := htick hfit
  have hnone := hheld (Int.le_refl _)
  exact ⟨(hbefore (Int.le_refl _)).1, (hafter (by decide)).2, report, hreport, hnone, hwakeup hnone⟩

end Store

end Downloads
