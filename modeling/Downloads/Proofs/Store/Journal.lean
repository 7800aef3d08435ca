import Downloads.Proofs.Store.Frame

/-!
# Journals

A journal is what the callers of a store see: their calls, the answers to them, and the store that
is left. Each call is run statement by statement, and the engine may refuse any statement
(`Journal.attempt`). Whatever it refuses, the call takes effect as a whole or not at all
(`Journal.continues_attempt`). So an invariant of journals needs one case for a call that succeeds
and one for a call that fails (`Journal.induction`), and the store is what a run of the calls that
succeeded leaves (`Journal.store_eq_run`).
-/

namespace Downloads

/-- A call, and what the engine does with its statements. -/
structure Attempt where
  call : Operation
  refusals : List (Option Refusal) := []
  deriving Repr, DecidableEq

/-- A call and its answer. -/
structure Reply where
  call : Operation
  answer : Except StoreError Outcome
  deriving Repr, DecidableEq

/-- The call, if it succeeded. -/
def Reply.done? : Reply → Option Operation
  | ⟨op, .ok _⟩ => some op
  | ⟨_, .error _⟩ => none

/-- A store, and the calls that led to it with their answers, oldest first. -/
structure Journal where
  store : Store
  replies : List Reply
  deriving Repr, DecidableEq

namespace Journal

def empty : Journal := ⟨.empty, []⟩

/-- The journal with one more reply, and the store after it. -/
def note (j : Journal) (store : Store) (reply : Reply) : Journal := ⟨store, j.replies ++ [reply]⟩

/-- The calls that succeeded, oldest first. -/
def calls (j : Journal) : List Operation := j.replies.filterMap Reply.done?

theorem filterMap_note {β : Type} (f : Reply → Option β) (j : Journal) (s : Store) (reply : Reply) :
    (j.note s reply).replies.filterMap f = j.replies.filterMap f ++ (f reply).toList := by
  simp only [note, List.filterMap_append]
  rcases h : f reply with _ | b <;> simp [h]

theorem calls_note_ok (j : Journal) (s : Store) (op : Operation) (o : Outcome) :
    (j.note s ⟨op, .ok o⟩).calls = j.calls ++ [op] := filterMap_note Reply.done? j s _

theorem calls_note_error (j : Journal) (s : Store) (op : Operation) (e : StoreError) :
    (j.note s ⟨op, .error e⟩).calls = j.calls :=
  (filterMap_note Reply.done? j s _).trans (List.append_nil _)

variable [Url.HostNames]

/-- Runs the statements of a call and notes the answer. -/
def attempt (j : Journal) (a : Attempt) : Journal :=
  match a.call.session ⟨j.store, a.refusals⟩ with
  | .ok o db => j.note db.store ⟨a.call, .ok o⟩
  | .error e db => j.note db.store ⟨a.call, .error e⟩

def ofAttempts (as : List Attempt) : Journal := as.foldl attempt empty

theorem ofAttempts_concat (as : List Attempt) (a : Attempt) :
    ofAttempts (as ++ [a]) = (ofAttempts as).attempt a := by
  simp only [ofAttempts, List.foldl_append, List.foldl_cons, List.foldl_nil]

/-- The journal after one more call: the call did all that it does, or it failed and changed
nothing. It fails if it has to, or if the engine refuses a statement. -/
inductive Continues (j : Journal) (a : Attempt) : Journal → Prop where
  | done {o : Outcome} {s : Store} (h : j.store.apply a.call = .ok (o, s)) :
      Continues j a (j.note s ⟨a.call, .ok o⟩)
  | failed {e : StoreError} (h : j.store.apply a.call = .error e ∨
        ∃ r, some r ∈ a.refusals ∧ e = .database (.refused r)) :
      Continues j a (j.note j.store ⟨a.call, .error e⟩)

theorem continues_attempt {j : Journal} (hj : j.store.Ordered) (a : Attempt) :
    Continues j a (j.attempt a) := by
  have hsession := Session.implements_session hj a.call
  unfold attempt
  split
  · rename_i o db hrun
    exact .done (hsession.ok _ _ _ hrun).1
  · rename_i e db hrun
    have hsame : db.store = j.store := hsession.failsTo _ _ _ hrun
    rw [hsame]
    exact .failed (hsession.error _ _ _ hrun)

theorem reachable_attempt {j : Journal} (hj : j.store.Reachable) (a : Attempt) :
    (j.attempt a).store.Reachable := by
  generalize hnext : j.attempt a = next
  have hcontinues := continues_attempt hj.ordered a
  rw [hnext] at hcontinues
  cases hcontinues with
  | done h =>
    show Store.Reachable _
    rw [← Store.after_of_ok h]
    exact hj.after a.call
  | failed => exact hj

theorem reachable_ofAttempts (as : List Attempt) : (ofAttempts as).store.Reachable := by
  induction as using List.reverseRecOn with
  | nil => exact Store.reachable_empty
  | append_singleton as a ih =>
    rw [ofAttempts_concat]
    exact reachable_attempt ih a

/-- What holds at first, and is kept by calls that succeed and by calls that fail, holds of every
journal. -/
theorem induction {P : Journal → Prop} (hempty : P empty)
    (hdone : ∀ j op o s, j.store.Reachable → P j → j.store.apply op = .ok (o, s) →
      P (j.note s ⟨op, .ok o⟩))
    (hfailed : ∀ j op e, P j → P (j.note j.store ⟨op, .error e⟩)) (as : List Attempt) :
    P (ofAttempts as) := by
  induction as using List.reverseRecOn with
  | nil => exact hempty
  | append_singleton as a ih =>
    have hreach : (ofAttempts as).store.Reachable := reachable_ofAttempts as
    rw [ofAttempts_concat]
    generalize hnext : (ofAttempts as).attempt a = next
    have hcontinues := continues_attempt hreach.ordered a
    rw [hnext] at hcontinues
    cases hcontinues with
    | done h => exact hdone _ _ _ _ hreach ih h
    | failed => exact hfailed _ _ _ ih

/-- The calls that failed might as well not have been made. -/
theorem store_eq_run (as : List Attempt) :
    (ofAttempts as).store = Store.empty.run (ofAttempts as).calls := by
  refine induction (P := fun j => j.store = Store.empty.run j.calls) rfl ?_ ?_ as
  · intro j op o s _ ih h
    show s = Store.empty.run (j.note s ⟨op, .ok o⟩).calls
    rw [calls_note_ok, Store.run_concat, ← ih, Store.after_of_ok h]
  · intro j op e ih
    rw [calls_note_error]
    exact ih

/-- A call of which no statement is refused has the answer of the store. -/
theorem attempt_of_ok {j : Journal} (hj : j.store.Ordered) {op : Operation} {o : Outcome}
    {s : Store} (h : j.store.apply op = .ok (o, s)) :
    j.attempt ⟨op, []⟩ = j.note s ⟨op, .ok o⟩ := by
  generalize hnext : j.attempt ⟨op, []⟩ = next
  have hcontinues := continues_attempt hj ⟨op, []⟩
  rw [hnext] at hcontinues
  cases hcontinues with
  | done hok =>
    rw [h] at hok
    cases hok
    rfl
  | failed herror =>
    rcases herror with herror | ⟨r, hr, -⟩
    · rw [h] at herror
      cases herror
    · cases hr

end Journal

end Downloads
