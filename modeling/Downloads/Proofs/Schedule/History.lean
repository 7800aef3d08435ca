import Downloads.Proofs.Schedule.Listing
import Downloads.Proofs.Store.RetryCounts

/-!
# Histories

What happens to a store over time: calls, mixed with whole ticks of any schedulers. A tick claims
the rows that it reports and changes nothing else, so a store with such a history is one that came
about by calls. A tick fails if and only if a download has more failures than 64 bits can count.
-/

namespace Downloads

/-- What happens to a store: a call, or a whole tick of some scheduler. -/
inductive Event where
  | call (op : Operation)
  | tick (scheduler : Scheduler) (now : Int) (words : RandomWords) (notifier : Notifier)

namespace Store

variable {s : Store}

/-- A tick claims the rows that it reports, and changes nothing else. -/
theorem find?_tick (scheduler : Scheduler) (now : Int) (s : Store) (words : RandomWords)
    (notifier : Notifier) (id : Int) :
    (scheduler.tick now s words notifier).2.store.find? id = (s.find? id).map fun r =>
      if id ∈ (scheduler.tick now s words notifier).2.report.notified then r.claimed else r := by
  rcases hxs : s.snapshots with e | xs
  · rw [scheduler.tick_of_error now hxs]
    simp
  · obtain ⟨report, words', htick, hnotified⟩ :=
      scheduler.tick_of_snapshots now hxs words notifier
    rw [htick]
    simp only [hnotified, find?_announceAll]

variable [Url.HostNames]

/-- The store after an event. -/
def step (s : Store) : Event → Store
  | .call op => s.after op
  | .tick scheduler now words notifier => (scheduler.tick now s words notifier).2.store

/-- The store after events. -/
def history (es : List Event) : Store := es.foldl step empty

theorem history_concat (es : List Event) (event : Event) :
    history (es ++ [event]) = (history es).step event := by
  simp only [history, List.foldl_append, List.foldl_cons, List.foldl_nil]

theorem Reachable.step (h : s.Reachable) (event : Event) : (s.step event).Reachable := by
  cases event with
  | call op => exact h.after op
  | tick scheduler now words notifier =>
    show (scheduler.tick now s words notifier).2.store.Reachable
    rcases hxs : s.snapshots with e | xs
    · rwa [scheduler.tick_of_error now hxs]
    · obtain ⟨report, words', htick, -⟩ := scheduler.tick_of_snapshots now hxs words notifier
      rw [htick]
      exact h.announceAll xs

theorem reachable_history (es : List Event) : (history es).Reachable := by
  induction es using List.reverseRecOn with
  | nil => exact reachable_empty
  | append_singleton es event ih =>
    rw [history_concat]
    exact ih.step event

/-- A history of calls alone is a run. -/
theorem history_map_call (ops : List Operation) : history (ops.map .call) = empty.run ops := by
  rw [history, List.foldl_map]
  rfl

/-! ## Failing ticks -/

/-- What follows the last start of the counts of a download. Ticks do not count. -/
def nextCalls (id : Int) (s : Store) (calls : List Operation) : Event → List Operation
  | .call op => if s.startsCounts id op then [] else calls ++ [op]
  | .tick .. => calls

/-- The calls of a history that follow the last start of the counts of a download. -/
def recentCalls (id : Int) (es : List Event) : List Operation :=
  (es.foldl (fun (s, calls) event => (s.step event, nextCalls id s calls event)) (empty, [])).2

theorem recentCalls_concat (id : Int) (es : List Event) (event : Event) :
    recentCalls id (es ++ [event]) = nextCalls id (history es) (recentCalls id es) event := by
  have hstore : (es.foldl (fun (s, calls) event =>
      (s.step event, nextCalls id s calls event)) (empty, [])).1 = history es :=
    fst_foldl step (nextCalls id) es empty []
  simp only [recentCalls, List.foldl_append, List.foldl_cons, List.foldl_nil]
  rw [hstore]

/-- The counts of every download are those of the calls since they last started, whatever ticks come
between them. -/
theorem counts_of_history (es : List Event) {id : Int} {r : Row}
    (h : (history es).find? id = some r) : Counts id (recentCalls id es) r := by
  induction es using List.reverseRecOn generalizing r with
  | nil => cases h
  | append_singleton es event ih =>
    rw [history_concat] at h
    rw [recentCalls_concat]
    cases event with
    | call op => exact counts_after (fun _ => ih) h
    | tick scheduler now words notifier =>
      change (scheduler.tick now (history es) words notifier).2.store.find? id = some r at h
      rw [find?_tick] at h
      obtain ⟨r₀, hr₀, rfl⟩ := Option.map_eq_some_iff.mp h
      obtain ⟨hfailed, hretry⟩ := ih hr₀
      constructor <;> split <;> assumption

/-- After the events, the failures of each download since it was added or last succeeded can be
counted with 64 bits. -/
def CountsFit (es : List Event) : Prop :=
  ∀ id r, (history es).find? id = some r →
    (Operation.waits id (recentCalls id es)).length < 2 ^ 63

theorem countsFit_iff {es : List Event} :
    CountsFit es ↔ ∀ r ∈ (history es).rows, r.numFailed ≠ .real :=
  (reachable_history es).ordered.length_waits_lt_iff fun _ _ => counts_of_history es

/-- A store can be listed unless it holds more failures of a download than 64 bits can count. -/
theorem snapshots_history (es : List Event) :
    (CountsFit es ∧ ∃ xs, (history es).snapshots = .ok xs) ∨
      (¬ CountsFit es ∧ (history es).snapshots =
        .error (.database (.notAnInteger Column.numFailed.index true .real))) := by
  have hreach := reachable_history es
  by_cases hfit : CountsFit es
  · exact .inl ⟨hfit, _, hreach.snapshots_eq_ok_iff.mpr ⟨countsFit_iff.mp hfit, rfl⟩⟩
  · refine .inr ⟨hfit, hreach.snapshots_of_real ?_⟩
    simpa [countsFit_iff] using hfit

end Store

end Downloads
