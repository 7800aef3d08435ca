import Downloads.Proofs.Record.Reading
import Downloads.Schedule.Tick

/-!
# What a tick announces

Of all that a tick does, only the claims touch the store, and only they reach the notifier.
`Store.announce` is the claim that a tick makes for one snapshot, with the notice it hands out, and
`Store.announceAll` those of a whole listing. A visit does exactly the former (`Scan.visit_eq`), and
a tick exactly the latter (`Scheduler.tick_of_snapshots`), whatever the scheduler, the clock and the
random words are.
-/

namespace Downloads

/-- The record of a snapshot whose completion is to be announced, with no jitter. -/
def Snapshot.completion? (x : Snapshot) : Option Record :=
  match Record.ofSnapshot x with
  | .ok r => if r.hasCompletionNotification then some r else none
  | .error _ => none

namespace Store

/-- The claim for one snapshot: the notice that is handed out, and the store after it. -/
def announce (s : Store) (x : Snapshot) : Option Notice × Store :=
  match x.completion? with
  | none => (none, s)
  | some r =>
    let (first, s) := s.claimCompletionNotice r.id
    (if first then some (Notice.ofRecord r) else none, s)

/-- The claims for a listing. -/
def announceAll (s : Store) : List Snapshot → List Notice × Store
  | [] => ([], s)
  | x :: xs =>
    let (n, s) := s.announce x
    let (ns, s) := s.announceAll xs
    (n.toList ++ ns, s)

/-! ## Claims -/

variable {s : Store}

/-- The completion of a download is not announced yet. -/
def Armed (s : Store) (id : Int) : Prop :=
  ∃ r, s.find? id = some r ∧ r.completionNotified = .int 0

instance (s : Store) (id : Int) : Decidable (s.Armed id) :=
  decidable_of_iff (∃ r ∈ s.find? id, r.completionNotified = .int 0) (by simp [Armed])

theorem armed_iff {id : Int} {r : Row} (h : s.find? id = some r) :
    s.Armed id ↔ r.completionNotified = .int 0 := by
  unfold Armed
  rw [h]
  simp

/-- A claim is granted exactly if the download is armed, and only then it changes the store. -/
theorem claim_eq (s : Store) (id : Int) :
    s.claimCompletionNotice id =
      (decide (s.Armed id), if s.Armed id then s.rewrite id Row.claimed else s) := by
  rcases hr : s.find? id with _ | r
  · have harmed : ¬ s.Armed id := by simp [Armed, hr]
    simp only [claimCompletionNotice, hr, harmed, decide_false, if_false]
  · by_cases hflag : r.completionNotified = .int 0 <;>
      simp [claimCompletionNotice, hr, armed_iff hr, hflag, rewrite]

theorem announce_of_none {x : Snapshot} (hx : x.completion? = none) : s.announce x = (none, s) := by
  unfold announce
  rw [hx]

theorem announce_of_some {x : Snapshot} {r : Record} (hx : x.completion? = some r) :
    s.announce x =
      (if s.Armed r.id then some (Notice.ofRecord r) else none,
        (s.claimCompletionNotice r.id).2) := by
  unfold announce
  rw [hx]
  simp only [claim_eq, decide_eq_true_eq]

theorem announce_eq_some {x : Snapshot} {n : Notice} :
    (s.announce x).1 = some n ↔
      ∃ r, x.completion? = some r ∧ s.Armed r.id ∧ n = Notice.ofRecord r := by
  rcases hx : x.completion? with _ | r
  · rw [announce_of_none hx]
    simp
  · rw [announce_of_some hx]
    by_cases h : s.Armed r.id <;> simp [h, eq_comm]

theorem Reachable.announce [Url.HostNames] (h : s.Reachable) (x : Snapshot) :
    (s.announce x).2.Reachable := by
  rcases hx : x.completion? with _ | r
  · rwa [announce_of_none hx]
  · rw [announce_of_some hx]
    exact h.after (.claimCompletionNotice r.id)

theorem Reachable.announceAll [Url.HostNames] (h : s.Reachable) (xs : List Snapshot) :
    (s.announceAll xs).2.Reachable := by
  induction xs generalizing s with
  | nil => exact h
  | cons x xs ih => exact ih (h.announce x)

theorem lastId_announce (s : Store) (x : Snapshot) : (s.announce x).2.lastId = s.lastId := by
  rcases hx : x.completion? with _ | r
  · rw [announce_of_none hx]
  · rw [announce_of_some hx, claim_eq]
    split <;> rfl

/-! ## Rows after claims -/

theorem find?_claim (s : Store) (id i : Int) :
    (s.claimCompletionNotice i).2.find? id =
      (s.find? id).map fun r =>
        if i = id ∧ r.completionNotified = .int 0 then r.claimed else r := by
  have hsame : ∀ r : Row, r.claimed.id = r.id := fun _ => rfl
  rw [claim_eq]
  by_cases harmed : s.Armed i
  · simp only [if_pos harmed, find?_rewrite hsame]
    rcases hr : s.find? id with _ | r
    · rfl
    · by_cases hi : id = i
      · subst hi
        simp [(armed_iff hr).mp harmed]
      · simp [hi, Ne.symm hi]
  · rw [if_neg harmed]
    rcases hr : s.find? id with _ | r
    · rfl
    · by_cases hi : i = id
      · subst hi
        simp [mt (armed_iff hr).mpr harmed]
      · simp [hi]

/-- A row changes exactly if its notice is handed out. -/
theorem find?_announce (s : Store) (x : Snapshot) (id : Int) :
    (s.announce x).2.find? id = (s.find? id).map fun r =>
      if id ∈ (s.announce x).1.toList.map (·.id) then r.claimed else r := by
  rcases hx : x.completion? with _ | r
  · simp [announce_of_none hx]
  rw [announce_of_some hx, find?_claim]
  rcases hr : s.find? id with _ | row
  · rfl
  by_cases hi : r.id = id
  · subst hi
    by_cases hflag : row.completionNotified = .int 0 <;> simp [armed_iff hr, hflag, Notice.ofRecord]
  · have hne : id ≠ r.id := Ne.symm hi
    split <;> simp [Notice.ofRecord, hi, hne]

theorem find?_announceAll (s : Store) (xs : List Snapshot) (id : Int) :
    (s.announceAll xs).2.find? id = (s.find? id).map fun r =>
      if id ∈ (s.announceAll xs).1.map (·.id) then r.claimed else r := by
  induction xs generalizing s with
  | nil => simp [announceAll]
  | cons x xs ih =>
    have hids : ((s.announceAll (x :: xs)).1.map (·.id)) =
        (s.announce x).1.toList.map (·.id) ++ ((s.announce x).2.announceAll xs).1.map (·.id) :=
      List.map_append
    show ((s.announce x).2.announceAll xs).2.find? id = _
    rw [ih, find?_announce, Option.map_map, hids]
    congr 1
    funext r
    -- A row that is claimed again stays as it is.
    by_cases h₁ : id ∈ (s.announce x).1.toList.map (·.id) <;>
      by_cases h₂ : id ∈ ((s.announce x).2.announceAll xs).1.map (·.id) <;>
      simp only [Function.comp_apply, List.mem_append, h₁, h₂, if_true, if_false, or_true, or_false,
        or_self, Row.claimed]

/-- Of a listing that names each download once, the notices of all armed completions are handed
out. -/
theorem announceAll_fst (s : Store) {xs : List Snapshot}
    (hxs : (xs.filterMap fun x => x.completion?.map (·.id)).Nodup) :
    (s.announceAll xs).1 = xs.filterMap fun x => (s.announce x).1 := by
  induction xs generalizing s with
  | nil => rfl
  | cons x xs ih =>
    have hsame : ∀ y ∈ xs, ((s.announce x).2.announce y).1 = (s.announce y).1 := by
      intro y hy
      rcases hry : y.completion? with _ | ry
      · rw [announce_of_none hry, announce_of_none hry]
      rcases hrx : x.completion? with _ | rx
      · rw [announce_of_none hrx]
      have hne : rx.id ≠ ry.id := by
        intro h
        rw [List.filterMap_cons, hrx] at hxs
        refine (List.nodup_cons.mp hxs).1 (List.mem_filterMap.mpr ⟨y, hy, ?_⟩)
        simp only [hry, Option.map_some, h]
      have harmed : (s.announce x).2.Armed ry.id ↔ s.Armed ry.id := by
        unfold Armed
        rw [announce_of_some hrx]
        simp only [find?_claim, hne, false_and, if_false, Option.map_id']
      rw [announce_of_some hry, announce_of_some hry]
      simp only [harmed]
    have htail : (xs.filterMap fun x => x.completion?.map (·.id)).Nodup := by
      rw [List.filterMap_cons] at hxs
      split at hxs
      · exact hxs
      · exact (List.nodup_cons.mp hxs).2
    show (s.announce x).1.toList ++ ((s.announce x).2.announceAll xs).1 = _
    rw [ih _ htail, List.filterMap_congr hsame, List.filterMap_cons]
    rcases (s.announce x).1 with _ | n <;> rfl

end Store

/-! ## Visits and ticks -/

theorem Scheduler.judge_eq_announce_iff (s : Scheduler) (now : Int) (r : Record) :
    s.judge now r = .announce ↔ r.hasCompletionNotification = true := by
  unfold judge
  by_cases h : r.hasCompletionNotification
  · simp only [h, if_true]
  · rw [if_neg h]
    refine ⟨fun hv => ?_, fun hr => absurd hr h⟩
    split at hv <;> split at hv <;> cases hv

namespace Scan

variable {t : Scan Store}

theorem act_eq (t : Scan Store) (r : Record) {v : Verdict} (hv : v ≠ .announce) :
    ∃ report : TickReport, t.act r v = .ok { t with report } ∧
      report.notified = t.report.notified := by
  cases v with
  | announce => exact absurd rfl hv
  | start => exact ⟨_, rfl, rfl⟩
  | blocked => exact ⟨_, rfl, rfl⟩
  | wait delay => exact ⟨_, rfl, rfl⟩
  | nothing => exact ⟨t.report, rfl, rfl⟩

/-- Of a visit, the store sees one claim, and the notifier is handed the notice of that claim. -/
theorem visit_eq (s : Scheduler) (now : Int) (t : Scan Store) (x : Snapshot) :
    ∃ words report, t.visit s now x =
        ({ store := (t.store.announce x).2
           words
           notifier := (t.store.announce x).1.toList.foldl Notifier.notify t.notifier
           report }, none) ∧
      report.notified = t.report.notified ++ (t.store.announce x).1.toList.map (·.id) := by
  unfold visit Record.build Store.announce Snapshot.completion?
  rcases Record.ofSnapshot x with e | r
  · exact ⟨_, _, rfl, by simp⟩
  obtain ⟨jitterFuzz, words⟩ := t.words.drawJitter
  simp only
  by_cases hr : r.hasCompletionNotification
  · have hv : s.judge now { r with jitterFuzz } = .announce :=
      (s.judge_eq_announce_iff now _).mpr hr
    rw [hv, if_pos hr]
    simp only [act, announce, RecordStore.claimCompletionNotice]
    rcases t.store.claimCompletionNotice r.id with ⟨_ | _, store⟩
    · exact ⟨_, _, rfl, by simp⟩
    · exact ⟨_, _, rfl, by simp [Notice.ofRecord]⟩
  · have hv : s.judge now { r with jitterFuzz } ≠ .announce :=
      fun h => hr ((s.judge_eq_announce_iff now { r with jitterFuzz }).mp h)
    obtain ⟨report, hact, hnotified⟩ := act_eq { t with words } { r with jitterFuzz } hv
    rw [hact, if_neg hr]
    exact ⟨words, report, rfl, by simp [hnotified]⟩

theorem visitAll_eq (s : Scheduler) (now : Int) (t : Scan Store) (xs : List Snapshot) :
    ∃ words report, t.visitAll s now xs =
        ({ store := (t.store.announceAll xs).2
           words
           notifier := (t.store.announceAll xs).1.foldl Notifier.notify t.notifier
           report }, none) ∧
      report.notified = t.report.notified ++ (t.store.announceAll xs).1.map (·.id) := by
  induction xs generalizing t with
  | nil => exact ⟨t.words, t.report, rfl, (List.append_nil _).symm⟩
  | cons x xs ih =>
    obtain ⟨words₁, report₁, hvisit, hnotified₁⟩ := visit_eq s now t x
    obtain ⟨words, report, hrest, hnotified⟩ := ih
      ⟨(t.store.announce x).2, words₁,
        (t.store.announce x).1.toList.foldl Notifier.notify t.notifier, report₁⟩
    refine ⟨words, report, ?_, ?_⟩
    · simp only [visitAll, hvisit, hrest, Store.announceAll, List.foldl_append]
    · simp only [hnotified, hnotified₁, Store.announceAll, List.map_append, List.append_assoc]

end Scan

/-! ## Boxes -/

/-- A box keeps what it is sent in order, as much as it has room for, while its reader is there. -/
theorem Mailbox.foldl_post (m : Mailbox) (notices : List Notice) :
    notices.foldl post m =
      { m with
        waiting := m.waiting ++
          if m.connected then notices.take (m.capacity - m.waiting.length) else [] } := by
  induction notices generalizing m with
  | nil => simp
  | cons n notices ih =>
    rw [List.foldl_cons, ih]
    unfold post
    by_cases hconnected : m.connected = true
    · by_cases hroom : m.waiting.length < m.capacity
      · obtain ⟨k, hk⟩ : ∃ k, m.capacity - m.waiting.length = k + 1 :=
          ⟨m.capacity - m.waiting.length - 1, by omega⟩
        have hrest : m.capacity - (m.waiting.length + 1) = k := by omega
        simp [hconnected, hroom, hk, hrest]
      · have hfull : m.capacity - m.waiting.length = 0 := by omega
        simp [hconnected, hroom, hfull]
    · simp [hconnected]

namespace Notifier

/-- The notifier that was sent notices. -/
def holding : Notifier → List Notice → Notifier
  | .log, _ => .log
  | .box m, notices =>
    .box { m with
      waiting := m.waiting ++
        if m.connected then notices.take (m.capacity - m.waiting.length) else [] }

theorem foldl_notify (notifier : Notifier) (notices : List Notice) :
    notices.foldl notify notifier = notifier.holding notices := by
  cases notifier with
  | log =>
    induction notices with
    | nil => rfl
    | cons n notices ih => exact ih
  | box m =>
    have hbox : notices.foldl notify (.box m) = .box (notices.foldl Mailbox.post m) :=
      List.foldl_hom Notifier.box fun _ _ => rfl
    rw [hbox, Mailbox.foldl_post]
    rfl

/-- A box whose reader is there holds all notices for which it has room. -/
theorem holding_of_room {m : Mailbox} {notices : List Notice} (hconnected : m.connected = true)
    (hroom : m.waiting.length + notices.length ≤ m.capacity) :
    (Notifier.box m).holding notices = .box { m with waiting := m.waiting ++ notices } := by
  have hall : notices.take (m.capacity - m.waiting.length) = notices :=
    List.take_of_length_le (by omega)
  simp only [holding, hconnected, if_true, hall]

end Notifier

namespace Scheduler

/-- **Ticks.** If the store can be listed, a tick succeeds, claims what it lists, hands the notices
of the granted claims to the notifier and reports their ids. -/
theorem tick_of_snapshots (s : Scheduler) (now : Int) {store : Store} {xs : List Snapshot}
    (h : store.snapshots = .ok xs) (words : RandomWords) (notifier : Notifier) :
    ∃ report words', s.tick now store words notifier =
        (.ok report,
          { store := (store.announceAll xs).2
            words := words'
            notifier := (store.announceAll xs).1.foldl Notifier.notify notifier
            report }) ∧
      report.notified = (store.announceAll xs).1.map (·.id) := by
  obtain ⟨words', report, hvisit, hnotified⟩ :=
    Scan.visitAll_eq s now ⟨store, words, notifier, {}⟩ xs
  refine ⟨report, words', ?_, by simpa using hnotified⟩
  simp only [tick, RecordStore.snapshots, h, hvisit]

/-- If the store cannot be listed, a tick fails and changes nothing. -/
theorem tick_of_error (s : Scheduler) (now : Int) {store : Store} {e : StoreError}
    (h : store.snapshots = .error e) (words : RandomWords) (notifier : Notifier) :
    s.tick now store words notifier = (.error e, ⟨store, words, notifier, {}⟩) := by
  simp only [tick, RecordStore.snapshots, h]

end Scheduler

end Downloads
