import Downloads.Proofs.Schedule.Pause

/-!
# Readiness and delay

Three questions are asked about a record at a time: whether the download starts, whether it starts
again, and how long it waits. The first two differ only for downloads that are running, and neither
answer turns from yes to no as time goes on. For a download that stopped on the way, the delay leads
to the deadline with which the other two compare the time, unless it stops at the largest integer
(`Backoff.readiness_and_delay`). All three ask for the restart time of a download only if it failed
(`Backoff.AsksAfterFailure`).
-/

namespace Downloads

namespace Backoff

/-! ## Asking for the restart time -/

variable {b : Backoff} {c : Record} {now : Int}

section

variable {m : Type → Type} [Monad m] [LawfulMonad m] {ask : Record → m Int}

theorem pausedReadyWith_eq (h : c.numFailedAttempts ≠ 0 → ask c = pure (b.restartTime c)) :
    pausedReadyWith ask c now = pure (b.pausedReady c now) := by
  rw [pausedReadyWith, pausedReady_eq]
  by_cases hzero : c.numFailedAttempts = 0
  · rw [if_pos hzero, hzero]
    rfl
  · rw [if_neg hzero, h hzero, pure_bind, beq_false_of_ne hzero, Bool.false_or]

theorem isReadyToStartWith_eq (h : c.numFailedAttempts ≠ 0 → ask c = pure (b.restartTime c)) :
    isReadyToStartWith ask c now = pure (b.isReadyToStart c now) := by
  rw [isReadyToStartWith, isReadyToStart_eq, pausedReadyWith_eq h]
  cases c.control <;> cases c.status <;> rfl

theorem isReadyToRestartWith_eq (h : c.numFailedAttempts ≠ 0 → ask c = pure (b.restartTime c)) :
    isReadyToRestartWith ask c now = pure (b.isReadyToRestart c now) := by
  rw [isReadyToRestartWith, isReadyToRestart_eq, pausedReadyWith_eq h]
  cases c.control <;> cases c.status <;> rfl

theorem nextActionDelayWith_eq (h : c.numFailedAttempts ≠ 0 → ask c = pure (b.restartTime c)) :
    nextActionDelayWith ask c now = pure (b.nextActionDelay c now) := by
  rw [nextActionDelayWith, nextActionDelay_eq]
  cases c.status
  case runningPaused =>
    by_cases hzero : c.numFailedAttempts = 0
    · simp only [if_pos hzero]
    · simp only [if_neg hzero, h hzero, pure_bind]
  all_goals rfl

end

/-- The decisions about a record at a time do not ask for the restart time of a download that never
failed: whatever that would do, they are made all the same. -/
structure AsksAfterFailure (b : Backoff) (c : Record) (now : Int) : Prop where
  start : ∀ {m : Type → Type} [Monad m] [LawfulMonad m] (ask : Record → m Int),
    (c.numFailedAttempts ≠ 0 → ask c = pure (b.restartTime c)) →
      isReadyToStartWith ask c now = pure (b.isReadyToStart c now)
  restart : ∀ {m : Type → Type} [Monad m] [LawfulMonad m] (ask : Record → m Int),
    (c.numFailedAttempts ≠ 0 → ask c = pure (b.restartTime c)) →
      isReadyToRestartWith ask c now = pure (b.isReadyToRestart c now)
  delay : ∀ {m : Type → Type} [Monad m] [LawfulMonad m] (ask : Record → m Int),
    (c.numFailedAttempts ≠ 0 → ask c = pure (b.restartTime c)) →
      nextActionDelayWith ask c now = pure (b.nextActionDelay c now)

theorem asksAfterFailure (b : Backoff) (c : Record) (now : Int) : b.AsksAfterFailure c now where
  start _ := isReadyToStartWith_eq
  restart _ := isReadyToRestartWith_eq
  delay _ := nextActionDelayWith_eq

/-! ## Readiness over time -/

/-- A download starts if it would start again, or if it is left running. -/
theorem isReadyToStart_eq_or (b : Backoff) (c : Record) (now : Int) :
    b.isReadyToStart c now =
      (b.isReadyToRestart c now || (c.control == .run && c.status == .running)) := by
  rw [isReadyToStart_eq, isReadyToRestart_eq]
  cases c.control <;> cases c.status <;> simp

theorem not_isReadyToRestart_of_running (h : c.status = .running) :
    b.isReadyToRestart c now = false := by
  rw [isReadyToRestart_eq, h]
  cases c.control <;> rfl

theorem isReadyToStart_ne_iff :
    b.isReadyToStart c now ≠ b.isReadyToRestart c now ↔ c.control = .run ∧ c.status = .running := by
  rw [isReadyToStart_eq_or]
  constructor
  · intro hne
    by_contra hother
    have hleft : (c.control == .run && c.status == .running) = false := by simpa using hother
    rw [hleft, Bool.or_false] at hne
    exact hne rfl
  · rintro ⟨hrun, hstatus⟩
    rw [not_isReadyToRestart_of_running hstatus, hrun, hstatus]
    decide

/-- The decisions about a download that is let run and stopped on the way are the same. -/
theorem isReadyToStart_of_paused (hrun : c.control = .run) (hstatus : c.status = .runningPaused) :
    b.isReadyToStart c = b.pausedReady c := by
  funext time
  rw [isReadyToStart_eq, hrun, hstatus]

theorem isReadyToRestart_of_paused (hrun : c.control = .run) (hstatus : c.status = .runningPaused) :
    b.isReadyToRestart c = b.pausedReady c := by
  funext time
  rw [isReadyToRestart_eq, hrun, hstatus]

/-- A download that failed may go on strictly after its restart time. -/
theorem pausedReady_of_failed (hfailed : c.numFailedAttempts ≠ 0) (time : Int) :
    b.pausedReady c time = decide (b.restartTime c < time) := by
  rw [pausedReady_eq, beq_false_of_ne hfailed, Bool.false_or]

/-- A download that is let run and stopped on the way after failures is ready strictly after its
restart time. -/
theorem isReadyToStart_of_failed (hrun : c.control = .run) (hstatus : c.status = .runningPaused)
    (hfailed : c.numFailedAttempts ≠ 0) (time : Int) :
    b.isReadyToStart c time = decide (b.restartTime c < time) := by
  rw [isReadyToStart_of_paused hrun hstatus, pausedReady_of_failed hfailed]

theorem isReadyToRestart_of_failed (hrun : c.control = .run) (hstatus : c.status = .runningPaused)
    (hfailed : c.numFailedAttempts ≠ 0) (time : Int) :
    b.isReadyToRestart c time = decide (b.restartTime c < time) := by
  rw [isReadyToRestart_of_paused hrun hstatus, pausedReady_of_failed hfailed]

theorem pausedReady_mono {later : Int} (hle : now ≤ later) (h : b.pausedReady c now = true) :
    b.pausedReady c later = true := by
  simp only [pausedReady_eq, Bool.or_eq_true, decide_eq_true_eq] at h ⊢
  exact h.imp_right fun hlt => Int.lt_of_lt_of_le hlt hle

theorem isReadyToRestart_iff :
    b.isReadyToRestart c now = true ↔ c.control = .run ∧
      (c.status = .notStarted ∨ c.status = .pending ∨
        c.status = .runningPaused ∧ b.pausedReady c now = true) := by
  rw [isReadyToRestart_eq]
  cases c.control <;> cases c.status <;> simp

theorem isReadyToRestart_mono {later : Int} (hle : now ≤ later)
    (h : b.isReadyToRestart c now = true) : b.isReadyToRestart c later = true := by
  rw [isReadyToRestart_iff] at h ⊢
  obtain ⟨hrun, hstatus⟩ := h
  exact ⟨hrun, hstatus.imp_right (Or.imp_right (And.imp_right (pausedReady_mono hle)))⟩

theorem isReadyToStart_mono {later : Int} (hle : now ≤ later)
    (h : b.isReadyToStart c now = true) : b.isReadyToStart c later = true := by
  rw [isReadyToStart_eq_or, Bool.or_eq_true] at h ⊢
  exact h.imp_left (isReadyToRestart_mono hle)

/-! ## Delays -/

/-- A delay from a time on tells when a download is ready. It is zero once the download is ready, or
when it is ready from the next moment on. Else the download is not ready as long as the delay is not
over, and it is ready afterwards, unless the delay was cut off. -/
structure TellsReady (delay now : Int) (ready : Int → Bool) : Prop where
  nonneg : 0 ≤ delay
  eq_zero : ready now = true → delay = 0
  ready_of_zero : delay = 0 → ∀ time, now < time → ready time = true
  not_ready : 0 < delay → ∀ time, time ≤ now + delay → ready time = false
  ready_after : 0 < delay → delay < maxInt64 → ∀ time, now + delay < time → ready time = true

theorem tellsReady_zero (now : Int) : TellsReady 0 now fun _ => true where
  nonneg := Int.le_refl 0
  eq_zero _ := rfl
  ready_of_zero _ _ _ := rfl
  not_ready h := absurd h (Int.lt_irrefl 0)
  ready_after h := absurd h (Int.lt_irrefl 0)

/-- The time to a deadline tells what is ready strictly after it. -/
theorem tellsReady_deadline (deadline now : Int) :
    TellsReady (if deadline ≤ now then 0 else satSub deadline now) now
      fun time => decide (deadline < time) := by
  by_cases hdue : deadline ≤ now
  · rw [if_pos hdue]
    constructor <;> intros
    case nonneg | eq_zero => omega
    case ready_of_zero => exact decide_eq_true (by omega)
    all_goals exact absurd ‹(0 : Int) < 0› (Int.lt_irrefl 0)
  · rw [if_neg hdue]
    have hdelay : satSub deadline now = min maxInt64 (deadline - now) := by
      simp only [satSub, clamp64, minInt64, maxInt64]
      omega
    have hmax : (0 : Int) < maxInt64 := by decide
    rw [hdelay]
    constructor
    case nonneg => omega
    case eq_zero =>
      intro hready
      have hlt := of_decide_eq_true hready
      omega
    case ready_of_zero => omega
    case not_ready =>
      intro _ time htime
      exact decide_eq_false (by omega)
    case ready_after =>
      intro _ hcut time htime
      exact decide_eq_true (by omega)

theorem nextActionDelay_tellsReady (hstatus : c.status = .runningPaused) (now : Int) :
    ∃ d, b.nextActionDelay c now = some d ∧ TellsReady d now (b.pausedReady c) := by
  by_cases hzero : c.numFailedAttempts = 0
  · have hready : b.pausedReady c = fun _ => true := by
      funext time
      rw [pausedReady_eq, hzero]
      rfl
    rw [nextActionDelay_eq, hstatus, hready]
    exact ⟨0, if_pos hzero, tellsReady_zero now⟩
  · have hready : b.pausedReady c = fun time => decide (b.restartTime c < time) :=
      funext (pausedReady_of_failed hzero)
    rw [nextActionDelay_eq, hstatus, hready]
    exact ⟨_, if_neg hzero, tellsReady_deadline (b.restartTime c) now⟩

/-- **Readiness and delay.** What starts again also starts, and only downloads that are let run and
are running start without starting again. What is ready stays ready. For a download that is let run
and stopped on the way, there is a delay, and it tells when the download starts and when it starts
again. None of the three decisions asks for the restart time of a download that never failed. -/
theorem readiness_and_delay (b : Backoff) (c : Record) (now : Int) :
    (b.isReadyToRestart c now = true → b.isReadyToStart c now = true) ∧
    (b.isReadyToStart c now ≠ b.isReadyToRestart c now ↔
      c.control = .run ∧ c.status = .running) ∧
    (∀ later, now ≤ later →
      (b.isReadyToStart c now = true → b.isReadyToStart c later = true) ∧
      (b.isReadyToRestart c now = true → b.isReadyToRestart c later = true)) ∧
    (c.control = .run → c.status = .runningPaused →
      ∃ d, b.nextActionDelay c now = some d ∧
        TellsReady d now (b.isReadyToStart c) ∧ TellsReady d now (b.isReadyToRestart c)) ∧
    b.AsksAfterFailure c now := by
  refine ⟨fun h => ?_, isReadyToStart_ne_iff, fun later hle => ?_, fun hrun hstatus => ?_,
    b.asksAfterFailure c now⟩
  · rw [isReadyToStart_eq_or, h, Bool.true_or]
  · exact ⟨isReadyToStart_mono hle, isReadyToRestart_mono hle⟩
  · rw [isReadyToStart_of_paused hrun hstatus, isReadyToRestart_of_paused hrun hstatus]
    obtain ⟨d, hd, htells⟩ := b.nextActionDelay_tellsReady hstatus now
    exact ⟨d, hd, htells, htells⟩

/-- With the clock at its least time, the delay to the restart is cut off. At zero it is exact. -/
theorem readiness_and_delay_thriceFailed :
    thriceFailed.control = .run ∧ thriceFailed.status = .runningPaused ∧
      (ofBase 30).nextActionDelay thriceFailed minInt64 = some maxInt64 ∧
      (∀ time ≤ -1, (ofBase 30).isReadyToStart thriceFailed time = false) ∧
      (ofBase 30).nextActionDelay thriceFailed 0 = some 171940 ∧
      (∀ time ≤ 171940, (ofBase 30).isReadyToStart thriceFailed time = false) ∧
      (∀ time > 171940, (ofBase 30).isReadyToRestart thriceFailed time = true) ∧
      -- Without failures, the decision is made though every question would stop it.
      isReadyToStartWith (fun _ => none) { thriceFailed with numFailedAttempts := 0 } 0 =
        some true := by
  have hleast : (ofBase 30).nextActionDelay thriceFailed minInt64 = some maxInt64 := by decide
  have hzero : (ofBase 30).nextActionDelay thriceFailed 0 = some 171940 := by decide
  obtain ⟨-, -, -, hdelay, -⟩ := (ofBase 30).readiness_and_delay thriceFailed minInt64
  obtain ⟨d, hd, hstart, -⟩ := hdelay rfl rfl
  rw [hleast] at hd
  cases hd
  obtain ⟨-, -, -, hdelay', -⟩ := (ofBase 30).readiness_and_delay thriceFailed 0
  obtain ⟨d', hd', hstart', hrestart'⟩ := hdelay' rfl rfl
  rw [hzero] at hd'
  cases hd'
  obtain ⟨-, -, -, -, hasks⟩ :=
    (ofBase 30).readiness_and_delay { thriceFailed with numFailedAttempts := 0 } 0
  refine ⟨rfl, rfl, hleast, fun time htime => hstart.not_ready (by decide) time ?_, hzero,
    hstart'.not_ready (by decide), hrestart'.ready_after (by decide) (by decide),
    hasks.start (fun _ => none) (absurd rfl)⟩
  simp only [minInt64, maxInt64]
  omega

end Backoff

end Downloads
