import Downloads.Schedule.Notice
import Mathlib.Data.List.Infix

/-!
# The log of completions and notices

When ticks interleave with calls, a log tells what happened in which order: which download
completed, and which notice was handed out by a tick that had listed the store when the log was how
long. A log is fair if each notice answers a completion that had no notice yet, and carries the
status that the listing showed. Of a fair log the notices can be counted.
-/

namespace Downloads

/-- What the log keeps of a step. -/
inductive Entry where
  | completed (id : Int) (status : Status)
  | announced (notice : Notice) (listedAt : Nat)
  deriving Repr, DecidableEq

namespace Entry

/-- The entry is a completion of the download. -/
def completes (id : Int) : Entry → Bool
  | .completed i _ => i == id
  | .announced .. => false

/-- The entry is a notice of the download. -/
def announces (id : Int) : Entry → Bool
  | .completed .. => false
  | .announced n _ => n.id == id

@[simp]
theorem completes_completed (id i : Int) (st : Status) :
    (completed i st).completes id = (i == id) := rfl

@[simp]
theorem completes_announced (id : Int) (n : Notice) (t : Nat) :
    (announced n t).completes id = false := rfl

@[simp]
theorem announces_completed (id i : Int) (st : Status) :
    (completed i st).announces id = false := rfl

@[simp]
theorem announces_announced (id : Int) (n : Notice) (t : Nat) :
    (announced n t).announces id = (n.id == id) := rfl

end Entry

/-- Entries, the newest first. -/
abbrev Log := List Entry

namespace Log

/-- The download completed and has no notice since. -/
def pending (id : Int) : Log → Bool
  | [] => false
  | e :: log => e.completes id || (!e.announces id && pending id log)

/-- What the download last completed with. -/
def status? (id : Int) : Log → Option Status
  | [] => none
  | .completed i st :: log => if i = id then some st else status? id log
  | .announced .. :: log => status? id log

/-- The log when it had so many entries. -/
def asOf (t : Nat) (log : Log) : Log := log.drop (log.length - t)

/-- The entries since the download last completed. -/
def since (id : Int) (log : Log) : Log := log.takeWhile fun e => !e.completes id

/-- The notices of the download since it last completed. -/
def noticesSince (id : Int) (log : Log) : Log := (since id log).filter (·.announces id)

/-- Each notice answers a completion that had none yet, and carries the status that the download
last completed with when it was listed. -/
inductive Fair : Log → Prop where
  | nil : Fair []
  | completed {log : Log} (h : Fair log) (id : Int) (st : Status) : Fair (.completed id st :: log)
  | announced {log : Log} (h : Fair log) {n : Notice} {t : Nat} (hpending : pending n.id log = true)
      (ht : t ≤ log.length) (hlisted : status? n.id (asOf t log) = some n.status) :
      Fair (.announced n t :: log)

variable {log : Log} {id : Int}

/-! ## Past logs -/

theorem asOf_length (log : Log) : asOf log.length log = log := by
  rw [asOf, Nat.sub_self, List.drop_zero]

theorem asOf_cons {t : Nat} (ht : t ≤ log.length) (e : Entry) : asOf t (e :: log) = asOf t log := by
  unfold asOf
  rw [List.length_cons, Nat.succ_sub ht, List.drop_succ_cons]

/-- A download that had completed has still completed. -/
theorem status?_isSome_of_suffix {old : Log} (h : old <:+ log) (hold : (status? id old).isSome) :
    (status? id log).isSome := by
  obtain ⟨new, rfl⟩ := h
  induction new with
  | nil => exact hold
  | cons e new ih =>
    rw [List.cons_append]
    cases e with
    | announced => exact ih
    | completed i st =>
      unfold status?
      split
      · rfl
      · exact ih

theorem status?_isSome_of_asOf {t : Nat} {st : Status} (h : status? id (asOf t log) = some st) :
    (status? id log).isSome :=
  status?_isSome_of_suffix (List.drop_suffix (log.length - t) log) (Option.isSome_of_eq_some h)

/-- Without the entries since the last completion, a download has the same last completion. -/
theorem status?_drop {k : Nat} (hk : k ≤ (since id log).length) :
    status? id (log.drop k) = status? id log := by
  induction log generalizing k with
  | nil => rw [List.drop_nil]
  | cons e log ih =>
    rcases k with _ | k
    · rfl
    unfold since at hk
    rw [List.takeWhile_cons] at hk
    split at hk
    · rename_i hother
      rw [List.drop_succ_cons, ih (Nat.le_of_succ_le_succ hk)]
      cases e with
      | announced => rfl
      | completed i st =>
        have hi : i ≠ id := by simpa [Entry.completes] using hother
        exact (if_neg hi).symm
    · exact absurd hk (Nat.not_succ_le_zero k)

/-- A listing that is not older than the last completion shows it. -/
theorem status?_asOf {t : Nat} (ht : log.length - (since id log).length ≤ t) :
    status? id (asOf t log) = status? id log :=
  status?_drop (by omega)

/-! ## One more entry -/

@[simp]
theorem pending_completed (id i : Int) (st : Status) (log : Log) :
    pending id (.completed i st :: log) = (i == id || pending id log) := by simp [pending]

@[simp]
theorem pending_announced (id : Int) (n : Notice) (t : Nat) (log : Log) :
    pending id (.announced n t :: log) = (n.id != id && pending id log) := by
  simp [pending, bne]

theorem noticesSince_completed (id i : Int) (st : Status) (log : Log) :
    noticesSince id (.completed i st :: log) = if i = id then [] else noticesSince id log := by
  unfold noticesSince since
  by_cases hi : i = id <;> simp [hi, beq_false_of_ne]

theorem noticesSince_announced (id : Int) (n : Notice) (t : Nat) (log : Log) :
    noticesSince id (.announced n t :: log) =
      if n.id = id then .announced n t :: noticesSince id log else noticesSince id log := by
  unfold noticesSince since
  by_cases hi : n.id = id <;> simp [hi, beq_false_of_ne]

/-! ## Fair logs -/

/-- A notice needs a completion before it, and uses it up. -/
theorem Fair.announced_le (id : Int) (new : Log) (h : Fair (new ++ log)) :
    new.countP (·.announces id) + (pending id (new ++ log)).toNat ≤
      new.countP (·.completes id) + (pending id log).toNat := by
  induction new with
  | nil => simp
  | cons e new ih =>
    rw [List.cons_append] at h ⊢
    rw [List.countP_cons, List.countP_cons]
    cases h with
    | completed h i st =>
      have hle := ih h
      rw [pending_completed]
      by_cases hi : i = id
      · have := Bool.toNat_le (pending id (new ++ log))
        simp only [hi, Entry.announces_completed, Entry.completes_completed, beq_self_eq_true,
          Bool.true_or, Bool.toNat_true, Bool.false_eq_true, if_true, if_false]
        omega
      · simpa [beq_false_of_ne hi] using hle
    | @announced _ h n t hpending =>
      have hle := ih h
      rw [pending_announced]
      by_cases hi : n.id = id
      · rw [← hi] at hle ⊢
        rw [hpending] at hle
        simpa using hle
      · simpa [beq_false_of_ne hi, bne] using hle

theorem Fair.of_append {new : Log} (h : Fair (new ++ log)) : Fair log := by
  induction new with
  | nil => exact h
  | cons e new ih =>
    rw [List.cons_append] at h
    cases h with
    | completed h => exact ih h
    | announced h => exact ih h

/-- The download has no notice since its last completion while it is pending, and one afterwards,
which carries the status that its listing showed. -/
def Answered (id : Int) (log : Log) : Prop :=
  if pending id log then noticesSince id log = []
  else ∃ n t, noticesSince id log = [.announced n t] ∧ n.id = id ∧ t ≤ log.length ∧
    status? id (asOf t log) = some n.status

/-- An entry about another download changes nothing. -/
theorem Answered.cons (h : Answered id log) {e : Entry}
    (hpending : pending id (e :: log) = pending id log)
    (hnotices : noticesSince id (e :: log) = noticesSince id log) : Answered id (e :: log) := by
  unfold Answered at h ⊢
  rw [hpending, hnotices]
  split
  · rename_i hp
    rwa [if_pos hp] at h
  · rename_i hp
    rw [if_neg hp] at h
    obtain ⟨n, t, hn, hid, ht, hlisted⟩ := h
    exact ⟨n, t, hn, hid, Nat.le_succ_of_le ht, by rw [asOf_cons ht, hlisted]⟩

theorem Fair.answered (h : Fair log) (hdone : (status? id log).isSome) : Answered id log := by
  induction h with
  | nil => cases hdone
  | @completed log h i st ih =>
    by_cases hi : i = id
    · unfold Answered
      rw [if_pos (by simp [hi]), noticesSince_completed, if_pos hi]
    · unfold status? at hdone
      rw [if_neg hi] at hdone
      exact (ih hdone).cons (by simp [beq_false_of_ne hi])
        (by rw [noticesSince_completed, if_neg hi])
  | @announced log h n t hpending ht hlisted ih =>
    have hanswered := ih hdone
    by_cases hi : n.id = id
    · subst hi
      unfold Answered at hanswered ⊢
      rw [if_pos hpending] at hanswered
      rw [if_neg (by simp), noticesSince_announced, if_pos rfl, hanswered]
      exact ⟨n, t, rfl, rfl, Nat.le_succ_of_le ht, by rw [asOf_cons ht, hlisted]⟩
    · exact hanswered.cons (by simp [beq_false_of_ne hi, bne])
        (by rw [noticesSince_announced, if_neg hi])

end Log

end Downloads
