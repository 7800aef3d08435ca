import Downloads.Proofs.Schedule.Readiness
import Downloads.Proofs.Schedule.Waiting

/-!
# Pausing and resuming

When a caller asks for a pause, or asks to go on, the time of the call is stored where pauses after
failures count from. So a download that is paused and let run again has the pause of its failures
before it once more, from the resumption. Downloads that no failure holds back do not notice
(`Store.Reachable.judges_after_resuming`).
-/

namespace Downloads

/-! ## Records of resumed downloads -/

namespace Record

/-- The record of a download of which its caller asked something at a time. -/
def asked (c : Record) (control : Control) (time : Int) : Record :=
  { c with control, lastModificationTimeMillis := time }

/-- The record of a running download that its caller paused and let run again at a time. -/
def resumed (c : Record) (time : Int) : Record := { c with lastModificationTimeMillis := time }

theorem asked_asked (c : Record) (control : Control) (time time' : Int) :
    (c.asked control time).asked c.control time' = c.resumed time' := rfl

end Record

namespace Backoff

variable {b : Backoff} {c : Record}

theorem restartTime_le (b : Backoff) (c : Record) : b.restartTime c ≤ maxInt64 := by
  rw [restartTime_eq]
  exact clamp64_le _

/-- The pause of a resumed download counts from the resumption. -/
theorem restartTime_resumed (b : Backoff) (c : Record) (time : Int) :
    b.restartTime (c.resumed time) = satAdd time (b.pause c) := restartTime_eq b (c.resumed time)

theorem le_restartTime_resumed (b : Backoff) (c : Record) {time : Int} (htime : time ≤ maxInt64) :
    time ≤ b.restartTime (c.resumed time) := by
  have hpause := b.one_le_pause c
  rw [restartTime_resumed]
  simp only [satAdd, clamp64, minInt64, maxInt64] at htime ⊢
  omega

/-! ## Judgements -/

/-- From a time on, the decisions about two records are the same. Times have 64 bits. -/
structure JudgesAlike (b : Backoff) (since : Int) (c c' : Record) : Prop where
  start : ∀ now, since ≤ now → now ≤ maxInt64 → b.isReadyToStart c now = b.isReadyToStart c' now
  restart : ∀ now, since ≤ now → now ≤ maxInt64 →
    b.isReadyToRestart c now = b.isReadyToRestart c' now
  delay : ∀ now, since ≤ now → now ≤ maxInt64 → b.nextActionDelay c now = b.nextActionDelay c' now

/-- The time of the last change matters only for the pause of a download that failed. -/
theorem judgesAlike_resumed (since time : Int)
    (h : c.status ≠ .runningPaused ∨ c.numFailedAttempts = 0 ∨
      b.restartTime (c.resumed time) = b.restartTime c) :
    b.JudgesAlike since c (c.resumed time) := by
  by_cases hstatus : c.status = .runningPaused
  · have hpause : c.numFailedAttempts = 0 ∨ b.restartTime (c.resumed time) = b.restartTime c :=
      h.resolve_left (not_not_intro hstatus)
    have hready : ∀ now, b.pausedReady c now = b.pausedReady (c.resumed time) now := by
      intro now
      obtain hzero | htime := hpause
      · simp [pausedReady_eq, Record.resumed, hzero]
      · rw [pausedReady_eq, pausedReady_eq, htime]
        rfl
    constructor <;> intro now _ _
    case start => simp [isReadyToStart_eq, Record.resumed, hstatus, hready]
    case restart => simp [isReadyToRestart_eq, Record.resumed, hstatus, hready]
    case delay =>
      simp only [nextActionDelay_eq, hstatus, Record.resumed]
      obtain hzero | htime := hpause
      · rw [if_pos hzero, if_pos hzero]
      · rw [← htime]
        rfl
  · constructor <;> intro now _ _
    all_goals
      rcases hcontrol : c.control <;> rcases hst : c.status <;>
        simp_all [isReadyToStart_eq, isReadyToRestart_eq, nextActionDelay_eq, Record.resumed]

/-- A download that failed is ready at different times if its restart time moves. -/
theorem restartTime_of_judgesAlike {since : Int} (hsince : since ≤ maxInt64)
    (hrun : c.control = .run) (hstatus : c.status = .runningPaused)
    (hfailed : c.numFailedAttempts ≠ 0) (h : b.JudgesAlike since c (c.resumed since)) :
    b.restartTime (c.resumed since) = b.restartTime c := by
  have hready : ∀ now, since ≤ now → now ≤ maxInt64 →
      (b.restartTime c < now ↔ b.restartTime (c.resumed since) < now) := by
    intro now hle hmax
    have hstart := h.start now hle hmax
    rw [isReadyToStart_of_failed hrun hstatus hfailed,
      isReadyToStart_of_failed (c := c.resumed since) hrun hstatus hfailed] at hstart
    exact decide_eq_decide.mp hstart
  have hlater := le_restartTime_resumed b c hsince
  have hbefore := b.restartTime_le c
  have hafter := b.restartTime_le (c.resumed since)
  -- If the times differ, the records differ right after the earlier one.
  rcases Int.lt_trichotomy (b.restartTime c) (b.restartTime (c.resumed since)) with hlt | heq | hgt
  · have hdiffer := hready (max since (b.restartTime c + 1)) (by omega) (by omega)
    omega
  · exact heq.symm
  · have hdiffer := hready (b.restartTime (c.resumed since) + 1) (by omega) (by omega)
    omega

end Backoff

/-! ## Calls -/

namespace Store

/-- A call that stores the wish of the caller changes the wish and the time of a download, and
nothing else that is read of it. -/
theorem Reachable.reads_setControl [Url.HostNames] {s : Store} (h : s.Reachable) {id : Int}
    {c : Record} (hc : s.Reads id c) (control : Control) (time : Int) :
    ∃ s', s.setControl id control time = .ok s' ∧ s'.Reachable ∧
      s'.Reads id (c.asked control time) := by
  refine h.reads_of_updateRow hc (.setControl id control time) rfl (fun _ => rfl) ?_
  rintro r st n hst hcode hn hle rfl
  exact ⟨st, n, hst, hcode, hn, hle, rfl⟩

/-- **Pausing and resuming.** A download that its caller lets run and that can be read is the same
after a pause and a resumption, but for the time of its last change, which is that of the
resumption. From then on it is judged as if neither call had been made if and only if it did not
stop on the way, or has no failure behind it, or its restart time stays. For the pause of its
failures now counts from the resumption. -/
theorem Reachable.judges_after_resuming [Url.HostNames] {s : Store} (h : s.Reachable) {id : Int}
    {c : Record} (hc : s.Reads id c) (hrun : c.control = .run) (t₁ t₂ : Int)
    (ht₂ : t₂ ≤ maxInt64) :
    ∃ s₁ s₂, s.setControl id .paused t₁ = .ok s₁ ∧ s₁.setControl id .run t₂ = .ok s₂ ∧
      s₂.Reads id (c.resumed t₂) ∧
      ∀ (b : Backoff) (jitter : Nat),
        let before := c.withJitter jitter
        let after := (c.resumed t₂).withJitter jitter
        (b.JudgesAlike t₂ before after ↔ c.status ≠ .runningPaused ∨ c.numFailedAttempts = 0 ∨
          b.restartTime after = b.restartTime before) ∧
        b.restartTime before = satAdd c.lastModificationTimeMillis (b.pause before) ∧
        b.restartTime after = satAdd t₂ (b.pause before) := by
  obtain ⟨s₁, hpaused, hreach, hc₁⟩ := h.reads_setControl hc .paused t₁
  obtain ⟨s₂, hresumed, -, hc₂⟩ := hreach.reads_setControl hc₁ .run t₂
  rw [← hrun, Record.asked_asked] at hc₂
  refine ⟨s₁, s₂, hpaused, hresumed, hc₂, fun b jitter => ?_⟩
  intro before after
  refine ⟨⟨fun hjudges => ?_, b.judgesAlike_resumed (c := before) t₂ t₂⟩,
    b.restartTime_eq before, b.restartTime_resumed before t₂⟩
  by_cases hstatus : c.status = .runningPaused
  · by_cases hfailed : c.numFailedAttempts = 0
    · exact .inr (.inl hfailed)
    · exact .inr (.inr (Backoff.restartTime_of_judgesAlike (c := before) ht₂ hrun hstatus hfailed
        hjudges))
  · exact .inl hstatus

/-- The download is due. Once it was paused and let run again, it is held back. -/
theorem not_judgesAlike_failedStore :
    let c := failedRow.record .runningPaused 1 []
    failedStore.Reachable ∧ failedStore.Reads 1 c ∧ c.control = .run ∧
      (onlineScheduler.shouldStart failedStore 1 90001 ⟨[], 0⟩).1 = .ok true ∧
      ∃ s₁ s₂, failedStore.setControl 1 .paused 80000 = .ok s₁ ∧
        s₁.setControl 1 .run 90000 = .ok s₂ ∧ s₂.Reads 1 (c.resumed 90000) ∧
        (onlineScheduler.shouldStart s₂ 1 90001 ⟨[], 0⟩).1 = .ok false ∧
        ¬ onlineScheduler.backoff.JudgesAlike 90000 c (c.resumed 90000) := by
  intro c
  have hreach : failedStore.Reachable := ⟨_, rfl⟩
  obtain ⟨s₁, hpaused, hreach₁, hc₁⟩ := hreach.reads_setControl reads_failedStore .paused 80000
  obtain ⟨s₂, hresumed, -, hc₂⟩ := hreach₁.reads_setControl hc₁ .run 90000
  have hdue : onlineScheduler.backoff.isReadyToStart c 90001 = true := by decide +kernel
  have hheld : onlineScheduler.backoff.isReadyToStart (c.resumed 90000) 90001 = false := by
    decide +kernel
  refine ⟨hreach, reads_failedStore, rfl, by decide +kernel, s₁, s₂, hpaused, hresumed, hc₂, ?_, ?_⟩
  · simp only [Scheduler.shouldStart, Scheduler.load_of_reads hc₂]
    decide +kernel
  · intro hjudges
    have hstart := hjudges.start 90001 (by decide) (by decide)
    rw [hdue, hheld] at hstart
    cases hstart

theorem judges_after_resuming_failedStore :
    let c := failedRow.record .runningPaused 1 []
    failedStore.Reachable ∧ failedStore.Reads 1 c ∧ c.control = .run ∧ (90000 : Int) ≤ maxInt64 ∧
      ∃ s₁ s₂, failedStore.setControl 1 .paused 80000 = .ok s₁ ∧
        s₁.setControl 1 .run 90000 = .ok s₂ ∧ s₂.Reads 1 (c.resumed 90000) ∧
        onlineScheduler.backoff.restartTime (c.withJitter 1000) = 60000 ∧
        onlineScheduler.backoff.restartTime ((c.resumed 90000).withJitter 1000) = 150000 ∧
        ¬ onlineScheduler.backoff.JudgesAlike 90000 (c.withJitter 1000)
          ((c.resumed 90000).withJitter 1000) := by
  intro c
  have hreach : failedStore.Reachable := ⟨_, rfl⟩
  obtain ⟨s₁, s₂, hpaused, hresumed, hc, hjudges⟩ :=
    hreach.judges_after_resuming reads_failedStore rfl 80000 90000 (by decide)
  obtain ⟨hiff, hbefore, hafter⟩ := hjudges onlineScheduler.backoff 1000
  refine ⟨hreach, reads_failedStore, rfl, by decide, s₁, s₂, hpaused, hresumed, hc,
    hbefore.trans (by decide +kernel), hafter.trans (by decide +kernel), fun halike => ?_⟩
  rw [hiff, hbefore, hafter] at halike
  revert halike
  decide +kernel

end Store

end Downloads
