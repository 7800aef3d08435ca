import Downloads.Proofs.Schedule.Readiness
import Downloads.Proofs.Schedule.Waiting
import Downloads.Schedule.RetryAfter

/-!
# Waits of servers

The wait that a server asks for after a failure is read from a header, packed into one field with
the redirects, stored, read back and added to the time of the failure. Nothing of it is lost on the
way, since a header never asks for more than a day, which the bits of the field can hold, and since
the redirects have bits of their own. So a download starts again exactly when the wait is over
(`Store.Reachable.honours_server_wait`).
-/

namespace Downloads

namespace RetryAfter

variable {header : String} {instant : Int} {wait : Nat}

/-- A header asks for half a minute at least and for a day at most. -/
theorem parse_mem (h : parse header instant = some wait) : 30 ≤ wait ∧ wait ≤ 86400 := by
  have hclamp : ∃ n, clamp n = wait := by
    simp only [parse] at h
    split at h
    · split at h <;> cases h
      exact ⟨_, rfl⟩
    · split at h
      · cases h
      · obtain ⟨n, -, hn⟩ := Option.map_eq_some_iff.mp h
        exact ⟨n, hn⟩
  obtain ⟨n, rfl⟩ := hclamp
  exact clamp_mem n

/-- The bits of the packed field hold every wait that a header asks for. -/
theorem lt_waitCount_of_parse (h : parse header instant = some wait) :
    wait < PackedRetry.waitCount := by
  obtain ⟨-, hle⟩ := parse_mem h
  exact Nat.lt_of_le_of_lt hle (by decide)

end RetryAfter

/-! ## Records of failed downloads -/

/-- The record of a download that failed once more, at a time, with a wait of the server. -/
def Record.heldBack (c : Record) (wait : Nat) (time : Int) : Record :=
  { c with
    status := .runningPaused
    numFailedAttempts := c.numFailedAttempts + 1
    retryAfterSeconds := wait
    lastModificationTimeMillis := time }

/-- A wait that fits into its bits is read back beside the redirects of another field. -/
theorem PackedRetry.unpack_pack_snd {wait : Nat} (hfits : wait < waitCount) (field : Int) :
    unpack (pack wait (unpack field).2) = (wait, (unpack field).2) := by
  have hlt : (unpack field).2 < maxRedirects + 1 := Nat.mod_lt _ (Nat.succ_pos _)
  rw [unpack_pack, Nat.mod_eq_of_lt hfits, Nat.mod_eq_of_lt hlt]

/-- A row with one more failure has the record with one more, and both parts of the packed field. -/
theorem Row.record_pausedForRetry (r : Row) (field : Int) (st : Status) (n : Nat)
    (headers : List (String × String)) (time : Int) :
    (r.pausedForRetry field time).record .runningPaused (n + 1) headers =
      { (r.record st n headers).heldBack (PackedRetry.unpack field).1 time with
        redirectCount := (PackedRetry.unpack field).2 } := rfl

namespace Backoff

variable {b : Backoff} {c : Record} {wait : Nat} {time : Int} {jitter : Nat}

/-- A wait of the server sets the restart time alone. -/
theorem restartTime_of_wait (htime : minInt64 ≤ time) (hwait : 0 < wait) :
    b.restartTime ((c.heldBack wait time).withJitter jitter) = min maxInt64 (time + wait) := by
  have hpause : b.pause ((c.heldBack wait time).withJitter jitter) = wait := pause_of_wait hwait
  rw [restartTime_eq, hpause]
  exact satAdd_eq_min htime (by omega)

/-- Without a wait of the server, the failures, the jitter and the base set it. -/
theorem restartTime_of_no_wait (htime : minInt64 ≤ time) :
    b.restartTime ((c.heldBack 0 time).withJitter jitter) =
      min maxInt64 (time +
        min maxInt64 (b.baseDelay * (1000 + jitter) * 2 ^ c.numFailedAttempts)) :=
  restartTime_of_failures (c := (c.heldBack 0 time).withJitter jitter) htime rfl

end Backoff

/-! ## Calls -/

namespace Scheduler

variable {sch : Scheduler} {now : Int} {s : Store}

/-- A tick gives a report if and only if all counts of failures are integers. -/
theorem exists_report_iff [Url.HostNames] (h : s.Reachable) (words : RandomWords)
    (notifier : Notifier) :
    (∃ report, (sch.tick now s words notifier).1 = .ok report) ↔
      ∀ r ∈ s.rows, r.numFailed ≠ .real := by
  constructor
  · rintro ⟨report, htick⟩
    rcases hxs : s.snapshots with e | xs
    · rw [sch.tick_of_error now hxs] at htick
      cases htick
    · exact (h.snapshots_eq_ok_iff.mp hxs).1
  · intro hreal
    obtain ⟨granted, -, htick⟩ :=
      sch.tick_eq_report now (h.snapshots_eq_ok_iff.mpr ⟨hreal, rfl⟩) words notifier
    exact ⟨_, htick⟩

end Scheduler

namespace Store

/-- The store reads the record of a download, and the download is retried strictly after a moment,
which may depend on the base of the pauses and on the jitter. Times have 64 bits. -/
structure RetriesAfter (s : Store) (id : Int) (c : Record) (moment : Backoff → Nat → Int) :
    Prop where
  reads : s.Reads id c
  restartTime : ∀ b jitter, b.restartTime (c.withJitter jitter) = min maxInt64 (moment b jitter)
  decides : ∀ (sch : Scheduler) (now : Int), now ≤ maxInt64 → sch.Decides now s id fun jitter =>
    sch.connectivity.allows c.destination && decide (moment sch.backoff jitter < now)
  /-- A tick has an answer as long as all counts of failures are integers. -/
  reports : ∀ (sch : Scheduler) (now : Int) (words : RandomWords) (notifier : Notifier),
    (∃ report, (sch.tick now s words notifier).1 = .ok report) ↔ ∀ r ∈ s.rows, r.numFailed ≠ .real

section

variable [Url.HostNames]

/-- A call that records a failure of a download keeps everything that is read of it but the status,
the failures, the wait and the time. The redirects beside the wait stay. -/
theorem Reachable.reads_markPausedForRetry {s : Store} (h : s.Reachable) {id : Int} {c : Record}
    (hc : s.Reads id c) (hfew : (c.numFailedAttempts : Int) < Record.maxFailures)
    (retryAfter : Option Nat) (hfits : retryAfter.getD 0 < PackedRetry.waitCount) (time : Int) :
    ∃ s', s.markPausedForRetry id retryAfter time = .ok s' ∧ s'.Reachable ∧
      s'.Reads id (c.heldBack (retryAfter.getD 0) time) := by
  obtain ⟨r, hr, hreal⟩ := h.exists_row_of_reads hc
  obtain ⟨field, hfield⟩ := (h.sound hr).retryRedirect
  -- The redirects of the packed field are those of the record.
  have hredirects : (PackedRetry.unpack field).2 = c.redirectCount := by
    obtain ⟨st, n, -, -, -, -, rfl⟩ := (h.reads_iff hr hreal).mp hc
    show (PackedRetry.unpack field).2 = (PackedRetry.unpack r.retryRedirect.number).2
    rw [hfield]
    rfl
  have hcall : s.markPausedForRetry id retryAfter time =
      s.updateRow id fun r => r.pausedForRetry
        (PackedRetry.pack (retryAfter.getD 0) (PackedRetry.unpack field).2) time := by
    simp only [markPausedForRetry, packedRetry_of_some hr, hfield, Cell.readInt, bind, Except.bind]
  rw [hcall]
  refine h.reads_of_updateRow hc (.markPausedForRetry id retryAfter time)
    (congrArg (Except.map fun s => (Outcome.done, s)) hcall) (fun _ => rfl) ?_
  rintro r' st n - - hn - hrow
  have hfailures : c.numFailedAttempts = n := by rw [hrow]; rfl
  have hlt : (n : Int) < maxInt64 := by
    unfold Record.maxFailures at hfew
    unfold maxInt64
    omega
  refine ⟨.runningPaused, n + 1, Status.storable_runningPaused, rfl, ?_, by omega, ?_⟩
  · show r'.numFailed.succ = .int (n + 1 : Nat)
    rw [hn, Cell.succ, if_pos hlt, Int.natCast_add]
    rfl
  · rw [Row.record_pausedForRetry, PackedRetry.unpack_pack_snd hfits, hredirects, hrow]
    rfl

/-- A failure holds a download back until its restart time. -/
theorem Reachable.retriesAfter_markPausedForRetry {s : Store} (h : s.Reachable) {id : Int}
    {c : Record} (hc : s.Reads id c) (hrun : c.control = .run)
    (hfew : (c.numFailedAttempts : Int) < Record.maxFailures) (retryAfter : Option Nat)
    (hfits : retryAfter.getD 0 < PackedRetry.waitCount) {time : Int} {moment : Backoff → Nat → Int}
    (hmoment : ∀ b jitter, b.restartTime ((c.heldBack (retryAfter.getD 0) time).withJitter jitter) =
      min maxInt64 (moment b jitter)) :
    ∃ s', s.markPausedForRetry id retryAfter time = .ok s' ∧
      s'.RetriesAfter id (c.heldBack (retryAfter.getD 0) time) moment := by
  obtain ⟨s', hok, hreach, hc'⟩ := h.reads_markPausedForRetry hc hfew retryAfter hfits time
  refine ⟨s', hok, hc', hmoment, fun sch now hnow => ?_,
    fun sch now => sch.exists_report_iff hreach⟩
  -- Of a time that has 64 bits, the stop at the largest integer makes no difference.
  have hover : ∀ jitter, decide (sch.backoff.restartTime
      ((c.heldBack (retryAfter.getD 0) time).withJitter jitter) < now) =
        decide (moment sch.backoff jitter < now) := by
    intro jitter
    rw [hmoment, decide_eq_decide]
    omega
  refine Scheduler.decides_of_reads hreach hc' (fun jitter => ?_) (fun jitter => ?_)
  · have hready := sch.backoff.isReadyToStart_of_failed
      (c := (c.heldBack (retryAfter.getD 0) time).withJitter jitter) hrun rfl
      (Nat.succ_ne_zero _) now
    rw [hready, hover, Bool.and_comm]
    rfl
  · have hready := sch.backoff.isReadyToRestart_of_failed
      (c := (c.heldBack (retryAfter.getD 0) time).withJitter jitter) hrun rfl
      (Nat.succ_ne_zero _) now
    rw [hready, hover, Bool.and_comm]
    rfl

/-- **Waits of servers.** A header asks for half a minute at least and for a day at most, whatever
it says. Take a download that is let run, whose failures and one more still fit into a record. If a
failure is recorded for it with the wait of a header, what is read of it is as before but for the
status, one more failure, that wait and the time. It is then retried strictly after the wait, which
counts from that time, whatever the jitter and the base are. If a failure is recorded without a
wait, it is retried after the pause of its failures. -/
theorem Reachable.honours_server_wait {s : Store} (h : s.Reachable) {id : Int} {r : Row}
    (hr : s.find? id = some r) (hrun : r.control = .run) {failures : Nat}
    (hfailures : r.numFailed = .int failures) (hfew : failures < 2 ^ 32 - 1) {time : Int}
    (htime : minInt64 ≤ time) :
    ∃ c, s.Reads id c ∧ c.control = .run ∧ c.numFailedAttempts = failures ∧
      (∀ header instant wait, RetryAfter.parse header instant = some wait →
        30 ≤ wait ∧ wait ≤ 86400 ∧
        ∃ s', s.markPausedForRetry id (some wait) time = .ok s' ∧
          s'.RetriesAfter id (c.heldBack wait time) fun _ _ => time + wait) ∧
      ∃ s', s.markPausedForRetry id none time = .ok s' ∧
        s'.RetriesAfter id (c.heldBack 0 time) fun b jitter =>
          time + min maxInt64 (b.baseDelay * (1000 + jitter) * 2 ^ failures) := by
  have hreal : r.numFailed ≠ .real := by rw [hfailures]; nofun
  obtain ⟨st, hst, hcode⟩ := (h.sound hr).status
  have hlt : (failures : Int) < Record.maxFailures := by
    unfold Record.maxFailures
    omega
  have hc : s.Reads id (r.record st failures (s.headersOf r.id)) :=
    (h.reads_iff hr hreal).mpr ⟨st, failures, hst, hcode, hfailures, Int.le_of_lt hlt, rfl⟩
  refine ⟨_, hc, hrun, rfl, fun header instant wait hwait => ?_, ?_⟩
  · obtain ⟨hle, hmax⟩ := RetryAfter.parse_mem hwait
    have hpos : 0 < wait := by omega
    exact ⟨hle, hmax, h.retriesAfter_markPausedForRetry hc hrun hlt (some wait)
      (RetryAfter.lt_waitCount_of_parse hwait)
      fun b jitter => Backoff.restartTime_of_wait htime hpos⟩
  · exact h.retriesAfter_markPausedForRetry hc hrun hlt none (by decide)
      fun b jitter => Backoff.restartTime_of_no_wait htime

end

/-- A download that failed once and was redirected nine times, which takes the sign of the field. -/
def redirectedStore : Store :=
  .run .empty ([.insert { uri := "https://example.com/a" } 0, .markPausedForRetry 1 none 0] ++
    List.replicate 9 (.recordRedirect 1))

/-- The row of the download. -/
def redirectedOnceRow : Row := { failedRow with retryRedirect := .int (-1879048192) }

theorem honours_server_wait_redirectedStore :
    redirectedStore.Reachable ∧ redirectedStore.find? 1 = some redirectedOnceRow ∧
      redirectedOnceRow.control = .run ∧ redirectedOnceRow.numFailed = .int (1 : Nat) ∧
      minInt64 ≤ 1000 ∧ RetryAfter.parse " 120 " 0 = some 120 ∧
      ∃ c s', redirectedStore.Reads 1 c ∧
        redirectedStore.markPausedForRetry 1 (some 120) 1000 = .ok s' ∧
        s'.Reads 1 (c.heldBack 120 1000) ∧
        (∀ words, (onlineScheduler.shouldStart s' 1 1120 words).1 = .ok false) ∧
        ∀ words, (onlineScheduler.shouldRestart s' 1 1121 words).1 = .ok true := by
  have hreach : redirectedStore.Reachable := ⟨_, rfl⟩
  have hr : redirectedStore.find? 1 = some redirectedOnceRow := by decide +kernel
  have hone : redirectedOnceRow.numFailed = .int (1 : Nat) := rfl
  have htime : minInt64 ≤ 1000 := by decide
  have hwait : RetryAfter.parse " 120 " 0 = some 120 := by decide +kernel
  obtain ⟨c, hc, -, -, hwaits, -⟩ := hreach.honours_server_wait hr rfl hone (by decide) htime
  obtain ⟨-, -, s', hok, hretries⟩ := hwaits " 120 " 0 120 hwait
  have hallowed : onlineScheduler.connectivity.allows (c.heldBack 120 1000).destination = true := by
    cases (c.heldBack 120 1000).destination <;> rfl
  refine ⟨hreach, hr, rfl, hone, htime, hwait, c, s', hc, hok, hretries.reads,
    fun words => ?_, fun words => ?_⟩
  · rw [(hretries.decides onlineScheduler 1120 (by decide)).start words, hallowed]
    rfl
  · rw [(hretries.decides onlineScheduler 1121 (by decide)).restart words, hallowed]
    rfl

end Store

end Downloads
