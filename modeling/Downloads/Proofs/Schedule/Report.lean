import Downloads.Proofs.Schedule.Announce

/-!
# What a tick reports

A tick builds the snapshots of a listing one after the other, each record with a jitter of its own,
and claims the completions among them. What was built and which claims were granted determine the
report (`Scheduler.report`). The loop of a tick adds up the reports of single snapshots, so on any
store a tick ends with the report of its whole listing, or with the failure of a claim
(`Scheduler.tick_eq`).
-/

namespace Downloads

namespace Record

/-- What is built of the snapshots of a listing. Each record draws its own jitter. -/
def buildAll : List Snapshot → RandomWords → List (Except RecordError Record)
  | [], _ => []
  | x :: xs, words => (build x words).1 :: buildAll xs (build x words).2

/-- The records that are built of a listing. -/
def listed (xs : List Snapshot) (words : RandomWords) : List Record :=
  (buildAll xs words).filterMap Except.toOption

theorem length_buildAll (xs : List Snapshot) (words : RandomWords) :
    (buildAll xs words).length = xs.length := by
  induction xs generalizing words with
  | nil => rfl
  | cons x xs ih => rw [buildAll, List.length_cons, List.length_cons, ih]

end Record

namespace RecordStore

variable {σ : Type} [RecordStore σ]

/-- Claims one after the other, until one fails: the downloads of those that were granted, and the
store after them. -/
def claimAll (store : σ) : List Int → Except StoreError (List Int) × σ
  | [] => (.ok [], store)
  | id :: ids =>
    match claimCompletionNotice store id with
    | .error e => (.error e, store)
    | .ok (first, store) =>
      ((claimAll store ids).1.map fun granted => if first then id :: granted else granted,
        (claimAll store ids).2)

theorem claimAll_of_error {store : σ} {id : Int} {e : StoreError}
    (h : claimCompletionNotice store id = .error e) (ids : List Int) :
    claimAll store (id :: ids) = (.error e, store) := by
  simp only [claimAll, h]

theorem claimAll_of_ok {store store' : σ} {id : Int} {first : Bool}
    (h : claimCompletionNotice store id = .ok (first, store')) (ids : List Int) :
    claimAll store (id :: ids) =
      ((claimAll store' ids).1.map fun granted => if first then id :: granted else granted,
        (claimAll store' ids).2) := by
  simp only [claimAll, h]

/-- A granted claim is one of those that were made. -/
theorem claimAll_sublist (store : σ) {ids granted : List Int}
    (h : (claimAll store ids).1 = .ok granted) : granted.Sublist ids := by
  induction ids generalizing store granted with
  | nil =>
    cases h
    exact .slnil
  | cons id ids ih =>
    rcases hclaim : claimCompletionNotice store id with e | ⟨first, store'⟩
    · rw [claimAll_of_error hclaim] at h
      cases h
    rw [claimAll_of_ok hclaim] at h
    rcases hrest : (claimAll store' ids).1 with e | rest <;> simp only [hrest] at h <;> cases h
    cases first
    · exact (ih store' hrest).cons id
    · exact (ih store' hrest).cons_cons id

end RecordStore

/-! ## The report of what was built -/

namespace TickReport

/-- The report of one listing and another after it. -/
def append (t u : TickReport) : TickReport where
  toStart := t.toStart ++ u.toStart
  blockedOnNetwork := t.blockedOnNetwork ++ u.blockedOnNetwork
  nextWakeupMs := t.nextWakeupMs.merge min u.nextWakeupMs
  notified := t.notified ++ u.notified
  skipped := t.skipped + u.skipped

theorem append_assoc (t u v : TickReport) : (t.append u).append v = t.append (u.append v) := by
  have hmin : ∀ a b c : Option Int, (a.merge min b).merge min c = a.merge min (b.merge min c) := by
    rintro (_ | a) (_ | b) (_ | c) <;> simp [Int.min_assoc]
  simp only [append, List.append_assoc, hmin, Nat.add_assoc]

theorem empty_append (t : TickReport) : append {} t = t := by
  simp only [append, List.nil_append, Option.merge_none_left, Nat.zero_add]

theorem append_empty (t : TickReport) : t.append {} = t := by
  simp only [append, List.append_nil, Option.merge_none_right, Nat.add_zero]

end TickReport

namespace Scheduler

section

variable (s : Scheduler) (now : Int)

/-- The download is ready, and the network may be used for it. -/
def starts (r : Record) : Bool := s.backoff.isReadyToStart r now && s.networkAllows r

/-- The download is ready, but the network may not be used for it. -/
def blocks (r : Record) : Bool := s.backoff.isReadyToStart r now && !s.networkAllows r

/-- The download stopped on the way, and its restart time is not over. -/
def waits (r : Record) : Bool :=
  r.control == .run && r.status == .runningPaused && !s.backoff.isReadyToStart r now

/-- The milliseconds to the restart time of a download, one at least. -/
def delay (r : Record) : Int := max 1 (satSub (s.backoff.restartTime r) now)

/-- What a tick reports of what it built, when the claims of some downloads were granted. -/
def report (built : List (Except RecordError Record)) (granted : List Int) : TickReport :=
  let records := built.filterMap Except.toOption
  { toStart := (records.filter (s.starts now)).map (·.id)
    blockedOnNetwork := (records.filter (s.blocks now)).map (·.id)
    nextWakeupMs := ((records.filter (s.waits now)).map (s.delay now)).min?
    notified := granted
    skipped := built.countP fun b => !b.isOk }

end

variable {s : Scheduler} {now : Int} {r : Record}

theorem not_ready_of_completed (h : r.status.isCompleted = true) (b : Backoff) :
    b.isReadyToStart r now = false := by
  rw [Backoff.isReadyToStart_eq]
  rcases hs : r.status <;> rw [hs] at h <;> cases h <;> cases r.control <;> rfl

theorem not_ready_of_paused (h : r.control = .paused) (b : Backoff) :
    b.isReadyToStart r now = false := by
  rw [Backoff.isReadyToStart_eq, h]

theorem completed_of_completion (h : r.hasCompletionNotification = true) :
    r.status.isCompleted = true :=
  (Bool.and_eq_true_iff.mp h).1

theorem waits_iff :
    s.waits now r = true ↔
      r.control = .run ∧ r.status = .runningPaused ∧ s.backoff.isReadyToStart r now = false := by
  simp [waits, and_assoc]

theorem not_waits_of_completion (h : r.hasCompletionNotification = true) :
    s.waits now r = false := by
  have hdone := completed_of_completion h
  rcases hw : s.waits now r with _ | _
  · rfl
  · rw [(waits_iff.mp hw).2.1] at hdone
    cases hdone

/-- A download that waits has failed before, and its restart time is not over. -/
theorem restart_of_waits (h : s.waits now r = true) :
    r.numFailedAttempts ≠ 0 ∧ now ≤ s.backoff.restartTime r := by
  obtain ⟨hrun, hpaused, hready⟩ := waits_iff.mp h
  simpa [Backoff.isReadyToStart_eq, hrun, hpaused, Backoff.pausedReady_eq] using hready

theorem delay_of_waits (h : s.waits now r = true) :
    ∃ d, s.backoff.nextActionDelay r now = some d ∧ max d 1 = s.delay now r := by
  obtain ⟨hfailed, hle⟩ := restart_of_waits h
  rw [Backoff.nextActionDelay_eq, (waits_iff.mp h).2.1, delay]
  simp only [if_neg hfailed]
  by_cases hdue : s.backoff.restartTime r ≤ now
  · refine ⟨0, congrArg some (if_pos hdue), ?_⟩
    have hnow : s.backoff.restartTime r = now := Int.le_antisymm hdue hle
    rw [hnow, satSub, Int.sub_self]
    rfl
  · exact ⟨_, congrArg some (if_neg hdue), Int.max_comm _ _⟩

/-- A verdict follows from the class of the record: the classes exclude each other. -/
theorem judge_eq (s : Scheduler) (now : Int) (r : Record) :
    s.judge now r =
      if r.hasCompletionNotification then .announce
      else if s.starts now r then .start
      else if s.blocks now r then .blocked
      else if s.waits now r then .wait (s.delay now r)
      else .nothing := by
  unfold judge starts blocks
  by_cases hc : r.hasCompletionNotification = true
  · simp only [hc, if_true]
  simp only [hc]
  rcases hready : s.backoff.isReadyToStart r now with _ | _
  swap
  · cases s.networkAllows r <;> simp
  simp only [Bool.false_and, Bool.false_eq_true, if_false]
  by_cases hw : s.waits now r = true
  · obtain ⟨d, hd, hdelay⟩ := delay_of_waits hw
    simp only [(waits_iff.mp hw).1, hd, hdelay, hw, if_true]
  · rw [if_neg hw]
    split
    · rename_i d hrun hd
      refine absurd (waits_iff.mpr ⟨hrun, ?_, hready⟩) hw
      rw [Backoff.nextActionDelay_eq] at hd
      split at hd
      · assumption
      · cases hd
    · rfl

/-! ## Adding up reports -/

theorem report_cons (b : Except RecordError Record) (built : List (Except RecordError Record))
    (first granted : List Int) :
    s.report now (b :: built) (first ++ granted) =
      (s.report now [b] first).append (s.report now built granted) := by
  have hids : ∀ p : Record → Bool,
      (((b :: built).filterMap Except.toOption).filter p).map (·.id) =
        (([b].filterMap Except.toOption).filter p).map (·.id) ++
          ((built.filterMap Except.toOption).filter p).map (·.id) := by
    intro p
    rw [← List.map_append, ← List.filter_append, ← List.filterMap_append]
    rfl
  have hwakeup : ∀ p q : List Int, (p ++ q).min? = p.min?.merge min q.min? := by
    intro p q
    induction p with
    | nil => simp
    | cons a p ih =>
      rw [List.cons_append, List.min?_cons, List.min?_cons, ih]
      rcases p.min? with _ | x <;> rcases q.min? with _ | y <;> simp [Int.min_assoc]
  simp only [report, TickReport.append, hids, TickReport.mk.injEq, true_and]
  refine ⟨?_, ?_⟩
  · rw [← hwakeup, ← List.map_append, ← List.filter_append, ← List.filterMap_append]
    rfl
  · rw [List.countP_cons, List.countP_singleton, Nat.add_comm]

theorem report_error (e : RecordError) : s.report now [.error e] [] = { skipped := 1 } := rfl

theorem report_ok (r : Record) (granted : List Int) :
    s.report now [.ok r] granted =
      { toStart := if s.starts now r then [r.id] else []
        blockedOnNetwork := if s.blocks now r then [r.id] else []
        nextWakeupMs := if s.waits now r then some (s.delay now r) else none
        notified := granted } := by
  have hrecord : [Except.ok (ε := RecordError) r].filterMap Except.toOption = [r] := rfl
  simp only [report, hrecord, TickReport.mk.injEq, true_and]
  refine ⟨?_, ?_, ?_, rfl⟩
  · cases hp : s.starts now r <;> simp [hp]
  · cases hp : s.blocks now r <;> simp [hp]
  · cases hp : s.waits now r <;> simp [hp]

/-- A completion is neither ready nor waiting. -/
theorem report_completion (h : r.hasCompletionNotification = true) (granted : List Int) :
    s.report now [.ok r] granted = { notified := granted } := by
  have hready : s.backoff.isReadyToStart r now = false :=
    not_ready_of_completed (completed_of_completion h) s.backoff
  rw [report_ok]
  simp [starts, blocks, hready, not_waits_of_completion h]

end Scheduler

namespace Scan

variable {σ : Type} [RecordStore σ] {s : Scheduler} {now : Int} {t : Scan σ} {x : Snapshot}
  {r : Record} {words : RandomWords}

theorem visit_of_error {e : RecordError} (h : Record.build x t.words = (.error e, words)) :
    t.visit s now x =
      ({ t with words, report := t.report.append (s.report now [.error e] []) }, none) := by
  simp only [visit, h, Scheduler.report_error, TickReport.append, List.append_nil,
    Option.merge_none_right]

/-- A record without a completion to announce goes where its class says. -/
theorem act_of_quiet (t : Scan σ) (hr : ¬ r.hasCompletionNotification = true) :
    t.act r (s.judge now r) =
      .ok { t with report := t.report.append (s.report now [.ok r] []) } := by
  rw [Scheduler.judge_eq, if_neg hr, Scheduler.report_ok]
  rcases hready : s.backoff.isReadyToStart r now with _ | _
  · rcases hwaits : s.waits now r with _ | _
    · simp [Scheduler.starts, Scheduler.blocks, hready, act, TickReport.append]
    · rcases hwakeup : t.report.nextWakeupMs with _ | current <;>
        simp [Scheduler.starts, Scheduler.blocks, hready, act, TickReport.append,
          TickReport.wakeIn, hwakeup]
  · have hwaits : s.waits now r = false := by simp [Scheduler.waits, hready]
    rcases hnetwork : s.networkAllows r with _ | _ <;>
      simp [Scheduler.starts, Scheduler.blocks, hready, hnetwork, hwaits, act, TickReport.append]

theorem visit_of_quiet (h : Record.build x t.words = (.ok r, words))
    (hr : ¬ r.hasCompletionNotification = true) :
    t.visit s now x =
      ({ t with words, report := t.report.append (s.report now [.ok r] []) }, none) := by
  simp only [visit, h, act_of_quiet _ hr]

theorem visit_of_completion (h : Record.build x t.words = (.ok r, words))
    (hr : r.hasCompletionNotification = true) :
    t.visit s now x =
      match RecordStore.claimCompletionNotice t.store r.id with
      | .error e => ({ t with words }, some e)
      | .ok (first, store) =>
        ({ store
           words
           notifier := if first then t.notifier.notify (Notice.ofRecord r) else t.notifier
           report := t.report.append (s.report now [.ok r] (if first then [r.id] else [])) },
          none) := by
  simp only [visit, h, (s.judge_eq_announce_iff now r).mpr hr, act, announce,
    Scheduler.report_completion hr]
  rcases RecordStore.claimCompletionNotice t.store r.id with e | ⟨_ | _, store⟩ <;>
    simp [TickReport.append]

/-! ## The loop of a tick -/

/-- What a scan comes to. -/
def result (t : Scan σ × Option StoreError) : Except StoreError TickReport :=
  match t with
  | (_, some e) => .error e
  | (t, none) => .ok t.report

/-- The ids of the completions among what was built. -/
def completions (built : List (Except RecordError Record)) : List Int :=
  ((built.filterMap Except.toOption).filter Record.hasCompletionNotification).map (·.id)

theorem completions_of_quiet {built : List (Except RecordError Record)}
    (hr : ¬ r.hasCompletionNotification = true) :
    completions (.ok r :: built) = completions built := by
  show ((r :: built.filterMap Except.toOption).filter _).map _ = _
  rw [List.filter_cons_of_neg hr]
  rfl

theorem completions_of_completion {built : List (Except RecordError Record)}
    (hr : r.hasCompletionNotification = true) :
    completions (.ok r :: built) = r.id :: completions built := by
  show ((r :: built.filterMap Except.toOption).filter _).map _ = _
  rw [List.filter_cons_of_pos hr, List.map_cons]
  rfl

/-- A scan claims the completions in turn and adds the report of what it built to its own. -/
theorem visitAll_result (s : Scheduler) (now : Int) (t : Scan σ) (xs : List Snapshot) :
    let built := Record.buildAll xs t.words
    let claims := RecordStore.claimAll t.store (completions built)
    result (t.visitAll s now xs) =
        claims.1.map (fun granted => t.report.append (s.report now built granted)) ∧
      (t.visitAll s now xs).1.store = claims.2 := by
  -- The induction is on the listing, for every report so far.
  induction xs generalizing t with
  | nil => exact ⟨congrArg Except.ok t.report.append_empty.symm, rfl⟩
  | cons x xs ih =>
    rcases hbuild : Record.build x t.words with ⟨e | r, words⟩
    · obtain ⟨hresult, hstore⟩ := ih
        { t with words, report := t.report.append (s.report now [.error e] []) }
      simp only [visitAll, visit_of_error hbuild, Record.buildAll, hbuild]
      refine ⟨?_, hstore⟩
      rw [hresult]
      simp only [TickReport.append_assoc, ← Scheduler.report_cons, List.nil_append]
      rfl
    by_cases hr : r.hasCompletionNotification = true
    swap
    · obtain ⟨hresult, hstore⟩ := ih
        { t with words, report := t.report.append (s.report now [.ok r] []) }
      simp only [visitAll, visit_of_quiet hbuild hr, Record.buildAll, hbuild,
        completions_of_quiet hr]
      refine ⟨?_, hstore⟩
      rw [hresult]
      simp only [TickReport.append_assoc, ← Scheduler.report_cons, List.nil_append]
    simp only [visitAll, visit_of_completion hbuild hr, Record.buildAll, hbuild,
      completions_of_completion hr, RecordStore.claimAll]
    rcases RecordStore.claimCompletionNotice t.store r.id with e | ⟨first, store⟩
    · exact ⟨rfl, rfl⟩
    obtain ⟨hresult, hstore⟩ := ih
      { store
        words
        notifier := if first then t.notifier.notify (Notice.ofRecord r) else t.notifier
        report := t.report.append (s.report now [.ok r] (if first then [r.id] else [])) }
    refine ⟨?_, hstore⟩
    simp only [hresult]
    rcases (RecordStore.claimAll store (completions (Record.buildAll xs words))).1 with e | granted
    · rfl
    · simp only [Except.map, TickReport.append_assoc, ← Scheduler.report_cons]
      cases first <;> rfl

end Scan

/-- **The report of a tick.** A tick that can list the store claims the completions of the listing
in turn. If no claim fails, it reports what it built and which claims were granted. -/
theorem Scheduler.tick_eq {σ : Type} [RecordStore σ] (s : Scheduler) (now : Int) {store : σ}
    {xs : List Snapshot} (h : RecordStore.snapshots store = .ok xs) (words : RandomWords)
    (notifier : Notifier) :
    let built := Record.buildAll xs words
    let claims := RecordStore.claimAll store (Scan.completions built)
    (s.tick now store words notifier).1 = claims.1.map (s.report now built) ∧
      (s.tick now store words notifier).2.store = claims.2 := by
  obtain ⟨hresult, hstore⟩ := Scan.visitAll_result s now ⟨store, words, notifier, {}⟩ xs
  simp only [TickReport.empty_append] at hresult
  simp only [tick, h]
  rcases hvisit : Scan.visitAll s now ⟨store, words, notifier, {}⟩ xs with ⟨t, _ | e⟩ <;>
    rw [hvisit] at hresult hstore <;> exact ⟨hresult, hstore⟩

end Downloads
