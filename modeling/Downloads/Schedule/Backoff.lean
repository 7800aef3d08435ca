import Downloads.Network
import Downloads.Record.Basic
import Downloads.Saturating

/-!
# Backoff

When a download may start, from its record alone. A download that stopped on the way with
failures behind it waits until its restart time: the wait that a server asked for, or else a base
delay scaled by the jitter and doubled by each failure after the first. All times are
milliseconds and saturate.
-/

namespace Downloads

/-- The base of the delays, at least one. -/
structure Backoff where
  baseDelay : Int
  one_le_baseDelay : 1 ≤ baseDelay

namespace Backoff

/-- The base that is used when none is set. -/
def defaultBaseDelay : Int := 30

/-- The backoff with a base, raised to one if it is less. -/
def ofBase (base : Int) : Backoff := ⟨max base 1, Int.le_max_right base 1⟩

/-- The earliest time of a retry. It is asked for only after a failure. The wait of a server is
added to the time as it stands, without a change of unit. -/
def restartTime (b : Backoff) (r : Record) : Int :=
  if 0 < r.retryAfterSeconds then
    satAdd r.lastModificationTimeMillis r.retryAfterSeconds
  else
    satAdd r.lastModificationTimeMillis
      (satMul (satMul b.baseDelay (1000 + (r.jitterFuzz : Int)))
        (satPow2 (r.numFailedAttempts - 1)))

/-! ## Decisions

The restart time means something after a failure only. So the decisions are written for any way to
ask for it, and only ask where they need it. -/

section Asking

variable {m : Type → Type} [Monad m] (ask : Record → m Int) (r : Record) (now : Int)

/-- Whether a download that stopped on the way may go on: at once if it only lost the network,
else strictly after its restart time. -/
def pausedReadyWith : m Bool :=
  if r.numFailedAttempts = 0 then pure true
  else do
    let restart ← ask r
    return restart < now

/-- Whether a download that nobody works on should start now. One that is running without anyone
working on it was left over by a process that died. -/
def isReadyToStartWith : m Bool :=
  match r.control, r.status with
  | .paused, _ => pure false
  | .run, .notStarted | .run, .pending | .run, .running => pure true
  | .run, .runningPaused => pausedReadyWith ask r now
  | .run, .success | .run, .failed _ => pure false

/-- Whether a download that somebody may work on should start again now. One that is running is
left alone. -/
def isReadyToRestartWith : m Bool :=
  match r.control, r.status with
  | .paused, _ => pure false
  | .run, .notStarted | .run, .pending => pure true
  | .run, .runningPaused => pausedReadyWith ask r now
  | .run, .running | .run, .success | .run, .failed _ => pure false

/-- The time until a download needs attention: none unless it stopped on the way, zero if it is
due. -/
def nextActionDelayWith : m (Option Int) :=
  match r.status with
  | .runningPaused =>
    if r.numFailedAttempts = 0 then pure (some 0)
    else do
      let restart ← ask r
      return some (if restart ≤ now then 0 else satSub restart now)
  | _ => pure none

end Asking

/-- The restart time as an answer that is always there. -/
def answer (b : Backoff) (r : Record) : Id Int := pure (b.restartTime r)

def pausedReady (b : Backoff) (r : Record) (now : Int) : Bool :=
  (pausedReadyWith b.answer r now).run

def isReadyToStart (b : Backoff) (r : Record) (now : Int) : Bool :=
  (isReadyToStartWith b.answer r now).run

def isReadyToRestart (b : Backoff) (r : Record) (now : Int) : Bool :=
  (isReadyToRestartWith b.answer r now).run

def nextActionDelay (b : Backoff) (r : Record) (now : Int) : Option Int :=
  (nextActionDelayWith b.answer r now).run

theorem pausedReady_eq (b : Backoff) (r : Record) (now : Int) :
    b.pausedReady r now = (r.numFailedAttempts == 0 || decide (b.restartTime r < now)) := by
  unfold pausedReady pausedReadyWith
  by_cases h : r.numFailedAttempts = 0
  · rw [if_pos h, h]
    rfl
  · rw [if_neg h, beq_false_of_ne h]
    rfl

theorem isReadyToStart_eq (b : Backoff) (r : Record) (now : Int) :
    b.isReadyToStart r now =
      match r.control, r.status with
      | .paused, _ => false
      | .run, .notStarted | .run, .pending | .run, .running => true
      | .run, .runningPaused => b.pausedReady r now
      | .run, .success | .run, .failed _ => false := by
  unfold isReadyToStart isReadyToStartWith
  cases r.control <;> cases r.status <;> rfl

theorem isReadyToRestart_eq (b : Backoff) (r : Record) (now : Int) :
    b.isReadyToRestart r now =
      match r.control, r.status with
      | .paused, _ => false
      | .run, .notStarted | .run, .pending => true
      | .run, .runningPaused => b.pausedReady r now
      | .run, .running | .run, .success | .run, .failed _ => false := by
  unfold isReadyToRestart isReadyToRestartWith
  cases r.control <;> cases r.status <;> rfl

theorem nextActionDelay_eq (b : Backoff) (r : Record) (now : Int) :
    b.nextActionDelay r now =
      match r.status with
      | .runningPaused =>
        if r.numFailedAttempts = 0 then some 0
        else some (if b.restartTime r ≤ now then 0 else satSub (b.restartTime r) now)
      | _ => none := by
  unfold nextActionDelay nextActionDelayWith
  cases r.status
  case runningPaused => exact apply_ite Id.run _ _ _
  all_goals rfl

end Backoff

namespace Record

/-- Whether the completion of the download is to be announced. -/
def hasCompletionNotification (r : Record) : Bool :=
  r.status.isCompleted && r.visibility == .visibleNotifyCompleted

end Record

end Downloads
