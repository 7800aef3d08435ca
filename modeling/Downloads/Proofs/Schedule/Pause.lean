import Downloads.Schedule.Backoff
import Mathlib.Algebra.Order.Ring.Int
import Mathlib.Tactic.GCongr
import Mathlib.Tactic.Positivity
import Mathlib.Tactic.Ring

/-!
# Pauses after failures

A restart time is the time of the last change and a pause. Every step on the way to it saturates,
and the pause is positive, so all of it comes down to the exact numbers, stopped once at the largest
integer for the pause and once for the time (`Backoff.restartTime_exact`).
-/

namespace Downloads

/-! ## Saturation of positive numbers -/

theorem satAdd_eq_min {a b : Int} (ha : minInt64 ≤ a) (hb : 0 ≤ b) :
    satAdd a b = min maxInt64 (a + b) := by
  simp only [satAdd, clamp64, minInt64, maxInt64] at *
  omega

theorem satMul_eq_min {a b : Int} (ha : 0 ≤ a) (hb : 0 ≤ b) :
    satMul a b = min maxInt64 (a * b) := by
  have hab : 0 ≤ a * b := Int.mul_nonneg ha hb
  simp only [satMul, clamp64, minInt64, maxInt64]
  omega

theorem satPow2_eq_min (e : Nat) : satPow2 e = min maxInt64 (2 ^ e) := by
  unfold satPow2
  split
  · rename_i he
    have hle : (2 : Int) ^ e ≤ 2 ^ 62 := by gcongr <;> omega
    have hpow : ((Nat.pow 2 e : Nat) : Int) = 2 ^ e := Int.natCast_pow 2 e
    simp only [maxInt64]
    omega
  · rename_i he
    have hle : (2 : Int) ^ 63 ≤ 2 ^ e := by gcongr <;> omega
    simp only [maxInt64]
    omega

/-- Numbers that were stopped have the product of the exact numbers, once it is stopped as well. -/
theorem min_mul_min {m a b : Int} (hm : 0 < m) (ha : 1 ≤ a) (hb : 1 ≤ b) :
    min m (min m a * min m b) = min m (a * b) := by
  have hstop : ∀ {x y : Int}, m ≤ x → 1 ≤ y → m ≤ x * y := fun hx hy =>
    hx.trans (le_mul_of_one_le_right (hm.le.trans hx) hy)
  rcases Int.le_total a m with ha' | ha'
  · rcases Int.le_total b m with hb' | hb'
    · rw [min_eq_right ha', min_eq_right hb']
    · rw [min_eq_left hb', mul_comm, mul_comm a b, min_eq_left (hstop hb' ha), min_eq_right ha',
        min_eq_left (hstop le_rfl ha)]
  · rw [min_eq_left ha', min_eq_left (hstop ha' hb), min_eq_left (hstop le_rfl (le_min hm hb))]

namespace Backoff

/-! ## Pauses -/

/-- How long the failures of a download hold it back. -/
def pause (b : Backoff) (c : Record) : Int :=
  if 0 < c.retryAfterSeconds then c.retryAfterSeconds
  else satMul (satMul b.baseDelay (1000 + (c.jitterFuzz : Int))) (satPow2 (c.numFailedAttempts - 1))

theorem restartTime_eq (b : Backoff) (c : Record) :
    b.restartTime c = satAdd c.lastModificationTimeMillis (b.pause c) := by
  unfold restartTime pause
  split <;> rfl

/-- How long the failures hold it back if no server asked for a wait and nothing is stopped. -/
def exactPause (b : Backoff) (c : Record) : Int :=
  b.baseDelay * (1000 + (c.jitterFuzz : Int)) * 2 ^ (c.numFailedAttempts - 1)

theorem one_le_scaled (b : Backoff) (c : Record) :
    1 ≤ b.baseDelay * (1000 + (c.jitterFuzz : Int)) :=
  Int.mul_pos b.one_le_baseDelay (by omega)

theorem one_le_exactPause (b : Backoff) (c : Record) : 1 ≤ b.exactPause c :=
  Int.mul_pos (b.one_le_scaled c) (Int.pow_pos (by decide))

theorem pause_of_wait {b : Backoff} {c : Record} (h : 0 < c.retryAfterSeconds) :
    b.pause c = c.retryAfterSeconds := if_pos h

theorem pause_of_failures {b : Backoff} {c : Record} (h : c.retryAfterSeconds = 0) :
    b.pause c = min maxInt64 (b.exactPause c) := by
  have hscaled := b.one_le_scaled c
  have hpow : (1 : Int) ≤ 2 ^ (c.numFailedAttempts - 1) := Int.pow_pos (by decide)
  have hbase : (0 : Int) ≤ b.baseDelay := Int.le_trans (by decide) b.one_le_baseDelay
  rw [pause, if_neg (by omega), satMul_eq_min hbase (by omega), satPow2_eq_min,
    satMul_eq_min (le_min (by decide) (by omega)) (le_min (by decide) (by omega)),
    min_mul_min (by decide) hscaled hpow]
  rfl

theorem one_le_pause (b : Backoff) (c : Record) : 1 ≤ b.pause c := by
  by_cases h : 0 < c.retryAfterSeconds
  · rw [pause_of_wait h]
    omega
  · rw [pause_of_failures (by omega)]
    exact le_min (by decide) (b.one_le_exactPause c)

/-- A pause is longer the more failures there are, the larger the jitter and the larger the base. -/
theorem exactPause_le {b b' : Backoff} {c c' : Record} (hbase : b.baseDelay ≤ b'.baseDelay)
    (hjitter : c.jitterFuzz ≤ c'.jitterFuzz)
    (hfailed : c.numFailedAttempts ≤ c'.numFailedAttempts) :
    b.exactPause c ≤ b'.exactPause c' := by
  have hbase' : 0 ≤ b'.baseDelay := Int.le_trans (by decide) b'.one_le_baseDelay
  unfold exactPause
  gcongr
  decide

/-- Each failure after the first doubles the pause. -/
theorem exactPause_succ {b : Backoff} {c : Record} (h : 0 < c.numFailedAttempts) :
    b.exactPause { c with numFailedAttempts := c.numFailedAttempts + 1 } = 2 * b.exactPause c := by
  obtain ⟨n, hn⟩ := Nat.exists_eq_add_one.mpr h
  simp only [exactPause, hn, Nat.add_sub_cancel]
  ring

/-! ## Restart times -/

theorem restartTime_of_failures {b : Backoff} {c : Record}
    (hmin : minInt64 ≤ c.lastModificationTimeMillis) (h : c.retryAfterSeconds = 0) :
    b.restartTime c =
      min maxInt64 (c.lastModificationTimeMillis + min maxInt64 (b.exactPause c)) := by
  have hpause := b.one_le_pause c
  rw [restartTime_eq, satAdd_eq_min hmin (by omega), pause_of_failures h]

/-- **Restart times.** The restart time of a download that failed is exact but for two stops at the
largest integer. If a server asked for a wait, the restart time is that wait after the last change,
whatever the failures, the jitter and the base are. If not, the wait is the base, which is one at
least, scaled by the jitter and doubled by each failure after the first. Then more failures, a
larger jitter, a larger base or a later change never make the restart earlier, and one more failure
doubles the delay exactly unless the doubled delay or its sum with the time is stopped. -/
theorem restartTime_exact (base : Int) (c : Record)
    (hmin : minInt64 ≤ c.lastModificationTimeMillis) (hfailed : 0 < c.numFailedAttempts) :
    let time := c.lastModificationTimeMillis
    let exact := max base 1 * (1000 + (c.jitterFuzz : Int)) * 2 ^ (c.numFailedAttempts - 1)
    (0 < c.retryAfterSeconds →
      (ofBase base).restartTime c = min maxInt64 (time + c.retryAfterSeconds)) ∧
    (c.retryAfterSeconds = 0 →
      (ofBase base).restartTime c = min maxInt64 (time + min maxInt64 exact) ∧
      (∀ (base' : Int) (c' : Record), c'.retryAfterSeconds = 0 → base ≤ base' →
        c.numFailedAttempts ≤ c'.numFailedAttempts → c.jitterFuzz ≤ c'.jitterFuzz →
        time ≤ c'.lastModificationTimeMillis →
        (ofBase base).restartTime c ≤ (ofBase base').restartTime c') ∧
      (2 * exact ≤ maxInt64 → time + 2 * exact ≤ maxInt64 →
        (ofBase base).restartTime { c with numFailedAttempts := c.numFailedAttempts + 1 } - time =
          2 * ((ofBase base).restartTime c - time))) := by
  intro time exact
  have hexact : (ofBase base).exactPause c = exact := rfl
  refine ⟨fun hwait => ?_, fun hnone => ⟨restartTime_of_failures hmin hnone, ?_, ?_⟩⟩
  · rw [restartTime_eq, pause_of_wait hwait, satAdd_eq_min hmin (by omega)]
  · intro base' c' hnone' hbase hfailures hjitter htime
    have hpause : (ofBase base).exactPause c ≤ (ofBase base').exactPause c' :=
      exactPause_le (max_le_max_right 1 hbase) hjitter hfailures
    rw [restartTime_of_failures hmin hnone, restartTime_of_failures (hmin.trans htime) hnone']
    gcongr
  · intro hdouble hsum
    have hpos : 1 ≤ exact := hexact ▸ (ofBase base).one_le_exactPause c
    rw [restartTime_of_failures (c := { c with numFailedAttempts := c.numFailedAttempts + 1 }) hmin
      hnone, restartTime_of_failures hmin hnone, exactPause_succ hfailed, hexact,
      min_eq_right hdouble, min_eq_right (show exact ≤ maxInt64 by omega)]
    show min maxInt64 (time + 2 * exact) - time = 2 * (min maxInt64 (time + exact) - time)
    omega

/-- A download whose third failure stops neither the delay nor the time. -/
def thriceFailed : Record :=
  { Record.new 1 "https://example.com/a" with
    status := .runningPaused
    numFailedAttempts := 3
    lastModificationTimeMillis := -500
    jitterFuzz := 437 }

theorem restartTime_exact_thriceFailed :
    minInt64 ≤ thriceFailed.lastModificationTimeMillis ∧ 0 < thriceFailed.numFailedAttempts ∧
      (ofBase 30).restartTime thriceFailed = 171940 ∧
      (ofBase 30).restartTime { thriceFailed with numFailedAttempts := 4 } = 344380 ∧
      (ofBase 30).restartTime thriceFailed ≤
        (ofBase 3600).restartTime { thriceFailed with numFailedAttempts := 4294967295 } := by
  have hmin : minInt64 ≤ thriceFailed.lastModificationTimeMillis := by decide
  obtain ⟨-, hnone⟩ := restartTime_exact 30 thriceFailed hmin (by decide)
  obtain ⟨htime, hmonotone, hdouble⟩ := hnone rfl
  have hthird : (ofBase 30).restartTime thriceFailed = 171940 := htime.trans (by decide)
  refine ⟨hmin, by decide, hthird, ?_, hmonotone 3600 _ rfl ?_ ?_ ?_ ?_⟩
  · have hfourth := hdouble (by decide) (by decide)
    rw [hthird] at hfourth
    exact Int.sub_eq_iff_eq_add.mp hfourth
  all_goals decide

end Backoff

end Downloads
