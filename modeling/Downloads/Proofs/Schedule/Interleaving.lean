import Downloads.Proofs.Schedule.Listing
import Downloads.Proofs.Schedule.NoticeLog
import Downloads.Proofs.Store.Completion

/-!
# Interleaved ticks

A tick lists the store in one step and visits each snapshot in another. Between two of its steps
anything may happen to the store: calls, and steps of other ticks. What a visit does depends neither
on the scheduler nor on the clock (`Scan.visit_eq`), so a tick under way is the snapshots that it
has yet to visit. The log keeps the completions and the notices. The invariant is that the log is
fair and says of each row whether it is armed (`Interleaving.Inv`).
-/

namespace Downloads

/-- A tick under way: the snapshots that it has yet to visit, and the length of the log when it
listed them. -/
structure OpenTick where
  remaining : List Snapshot
  listedAt : Nat

/-- A store that calls and ticks share. -/
structure Interleaving where
  store : Store := .empty
  ticks : List OpenTick := []
  log : Log := []

namespace Interleaving

/-- What happens next. -/
inductive Step where
  | call (op : Operation)
  /-- Some scheduler starts a tick. -/
  | list
  /-- A tick visits its next snapshot. -/
  | visit (tick : Nat)
  deriving Repr, DecidableEq

/-- The entry of a successful call. -/
def logged (op : Operation) : Option Entry := op.completion?.map fun (id, st) => .completed id st

variable [Url.HostNames]

/-- The state after a step. -/
def next (m : Interleaving) : Step → Interleaving
  | .call op =>
    match m.store.apply op with
    | .ok (_, store) => { m with store, log := (logged op).toList ++ m.log }
    | .error _ => m
  | .list =>
    match m.store.snapshots with
    | .ok listed => { m with ticks := m.ticks ++ [⟨listed, m.log.length⟩] }
    | .error _ => m
  | .visit k =>
    match m.ticks[k]? with
    | some ⟨x :: xs, t⟩ =>
      let (n, store) := m.store.announce x
      { store
        ticks := m.ticks.set k ⟨xs, t⟩
        log := (n.map (Entry.announced · t)).toList ++ m.log }
    | _ => m

/-- The state after steps. -/
def steps (m : Interleaving) (ss : List Step) : Interleaving := ss.foldl next m

/-- The state after steps on an empty store. -/
def run (ss : List Step) : Interleaving := steps {} ss

variable {m : Interleaving}

theorem run_concat (ss : List Step) (s : Step) : run (ss ++ [s]) = (run ss).next s := by
  simp only [run, steps, List.foldl_append, List.foldl_cons, List.foldl_nil]

/-! ## Ticks without interruption -/

theorem steps_visit (m : Interleaving) (before : List OpenTick) (xs : List Snapshot) (t : Nat)
    (h : m.ticks = before ++ [⟨xs, t⟩]) :
    m.steps (List.replicate xs.length (.visit before.length)) =
      { store := (m.store.announceAll xs).2
        ticks := before ++ [⟨[], t⟩]
        log := ((m.store.announceAll xs).1.map (Entry.announced · t)).reverse ++ m.log } := by
  induction xs generalizing m with
  | nil =>
    obtain ⟨store, ticks, log⟩ := m
    cases h
    rfl
  | cons x xs ih =>
    have hnext : m.next (.visit before.length) =
        { store := (m.store.announce x).2
          ticks := before ++ [⟨xs, t⟩]
          log := ((m.store.announce x).1.map (Entry.announced · t)).toList ++ m.log } := by
      simp [next, h]
    show (m.next (.visit before.length)).steps _ = _
    rw [ih _ (by rw [hnext]), hnext]
    simp only [Store.announceAll]
    congr 1
    rcases (m.store.announce x).1 with _ | n <;> simp

/-- **Ticks as steps.** A tick whose steps nothing interrupts is a tick of any scheduler: the store
is the same, and the notices in the log are those that its notifier is handed. -/
theorem steps_tick (m : Interleaving) {xs : List Snapshot} (hxs : m.store.snapshots = .ok xs)
    (scheduler : Scheduler) (now : Int) (words : RandomWords) (notifier : Notifier) :
    ∃ notices : List Notice, ∃ report t,
      scheduler.tick now m.store words notifier = (.ok report, t) ∧
      t.notifier = notices.foldl Notifier.notify notifier ∧
      m.steps (.list :: List.replicate xs.length (.visit m.ticks.length)) =
        { store := t.store
          ticks := m.ticks ++ [⟨[], m.log.length⟩]
          log := (notices.map (Entry.announced · m.log.length)).reverse ++ m.log } := by
  obtain ⟨report, words', htick, -⟩ := scheduler.tick_of_snapshots now hxs words notifier
  refine ⟨(m.store.announceAll xs).1, report, _, htick, rfl, ?_⟩
  have hlist : m.next .list = { m with ticks := m.ticks ++ [⟨xs, m.log.length⟩] } := by
    simp only [next, hxs]
  show (m.next .list).steps _ = _
  rw [steps_visit _ m.ticks xs m.log.length (by rw [hlist]), hlist]

end Interleaving

/-! ## The invariant -/

/-- The log knows of the row whether it completed, and whether it is armed. -/
structure Row.Recorded (r : Row) (id : Int) (log : Log) : Prop where
  status : ∀ st : Status, st.Storable → r.status = .int st.code → st.isCompleted = true →
    log.status? id = some st
  flag : (log.status? id).isSome → (r.completionNotified = .int 0 ↔ log.pending id = true)

/-- The snapshots that a tick has yet to visit show what the log knew at the listing. -/
structure OpenTick.Listed (tick : OpenTick) (log : Log) : Prop where
  listedAt_le : tick.listedAt ≤ log.length
  status : ∀ x ∈ tick.remaining, ∀ c, x.completion? = some c →
    (log.asOf tick.listedAt).status? c.id = some c.status

theorem OpenTick.Listed.cons {tick : OpenTick} {log : Log} (h : tick.Listed log) (e : Entry) :
    tick.Listed (e :: log) := by
  refine ⟨Nat.le_succ_of_le h.listedAt_le, fun x hx c hc => ?_⟩
  rw [Log.asOf_cons h.listedAt_le]
  exact h.status x hx c hc

/-- A completion of another download says nothing about a row. -/
theorem Row.Recorded.completed {r : Row} {id i : Int} {log : Log} (h : r.Recorded id log)
    (hi : i ≠ id) (st : Status) : r.Recorded id (.completed i st :: log) := by
  refine ⟨?_, ?_⟩
  · rw [Log.status?, if_neg hi]
    exact h.status
  · rw [Log.status?, if_neg hi, Log.pending_completed, beq_false_of_ne hi, Bool.false_or]
    exact h.flag

/-- The claim of a row makes it one that is not armed. -/
theorem Row.Recorded.announced {r : Row} {id : Int} {log : Log} (h : r.Recorded id log)
    (n : Notice) (t : Nat) :
    (if id = n.id then r.claimed else r).Recorded id (.announced n t :: log) := by
  have hstatus : (if id = n.id then r.claimed else r).status = r.status := by
    split <;> rfl
  refine ⟨fun st hst hcode => h.status st hst (hstatus ▸ hcode), fun hdone => ?_⟩
  rw [Log.pending_announced]
  by_cases hi : id = n.id
  · rw [if_pos hi, hi]
    simp [Row.claimed]
  · rw [if_neg hi, bne_iff_ne.mpr (Ne.symm hi), Bool.true_and]
    exact h.flag hdone

namespace Interleaving

section

variable [Url.HostNames] {m : Interleaving}

/-- What holds of every interleaving whose claims all come from ticks. -/
structure Inv (m : Interleaving) : Prop where
  reachable : m.store.Reachable
  fair : m.log.Fair
  known : ∀ id, (m.log.status? id).isSome → id ≤ m.store.lastId
  listed : ∀ tick ∈ m.ticks, tick.Listed m.log
  recorded : ∀ id r, m.store.find? id = some r → r.Recorded id m.log

theorem inv_empty : Inv {} where
  reachable := Store.reachable_empty
  fair := .nil
  known _ h := by cases h
  listed _ h := by cases h
  recorded _ _ h := by cases h

namespace Inv

/-- A completion arms its row, and the log knows of it. -/
theorem complete (h : m.Inv) {op : Operation} {id : Int} {st : Status}
    (hcompletion : op.completion? = some (id, st)) (hok : (m.store.apply op).isOk = true) :
    Inv { m with store := m.store.after op, log := .completed id st :: m.log } := by
  obtain ⟨hfound, hst⟩ := (Store.isOk_of_completion hcompletion).mp hok
  obtain ⟨r₀, hr₀⟩ := Option.isSome_iff_exists.mp hfound
  have ht := Operation.target?_of_completion hcompletion
  have hle := m.store.lastId_le_after op
  refine ⟨h.reachable.after op, h.fair.completed id st, fun i hi => ?_,
    fun tick htick => (h.listed tick htick).cons _, fun i r hr => ?_⟩
  · by_cases hid : id = i
    · have hlast := h.reachable.ordered.id_le_lastId hr₀
      rw [hid] at hlast
      exact Int.le_trans hlast hle
    · rw [Log.status?, if_neg hid] at hi
      exact Int.le_trans (h.known i hi) hle
  · change (m.store.after op).find? i = some r at hr
    by_cases hid : id = i
    · subst hid
      obtain ⟨r', hr', hstatus, hflag⟩ := Operation.change_of_completion hcompletion hst r₀
      rw [Store.find?_after_of_some op hr₀, Operation.effect_of_target ht, hr'] at hr
      cases hr
      refine ⟨fun st' hst' hcode _ => ?_, fun _ => ?_⟩
      · rw [Log.status?, if_pos rfl, Status.eq_of_code hst hst' hstatus hcode]
      · simp [hflag]
    · rcases hr' : m.store.find? i with _ | r'
      · obtain ⟨d, now, rfl, -⟩ := Store.find?_after_of_none hr' hr
        cases hcompletion
      · have hne : op.target? ≠ some i := by simpa [ht] using hid
        rw [Store.find?_after_of_some op hr', Operation.effect_of_ne hne] at hr
        cases hr
        exact (h.recorded i r hr').completed hid st

/-- Any other call that is no claim leaves what the log knows. -/
theorem other (h : m.Inv) {op : Operation} (hcompletion : op.completion? = none)
    (hclaim : ∀ id, op ≠ .claimCompletionNotice id) :
    Inv { m with store := m.store.after op } := by
  refine ⟨h.reachable.after op, h.fair,
    fun i hi => Int.le_trans (h.known i hi) (m.store.lastId_le_after op), h.listed,
    fun i r hr => ?_⟩
  change (m.store.after op).find? i = some r at hr
  rcases hr' : m.store.find? i with _ | r'
  · obtain ⟨d, now, -, hins, rfl⟩ := Store.find?_after_of_none hr' hr
    -- The id of a new row is not in the log.
    have hnew : ¬ (m.log.status? i).isSome := fun hi =>
      Int.not_lt.mpr (h.known i hi) (Store.lt_of_nextId (Store.insert_eq_ok hins).1).1
    refine ⟨fun st hst hcode hdone => ?_, fun hi => absurd hi hnew⟩
    have hopen := (Row.unfinished .pending rfl rfl).not_completed hst hcode
    rw [hopen] at hdone
    cases hdone
  rw [Store.find?_after_of_some op hr'] at hr
  have hold := h.recorded i r' hr'
  by_cases ht : op.target? = some i
  · rw [Operation.effect_of_target ht] at hr
    obtain ⟨hflag, hstatus⟩ := Operation.change_of_no_completion hcompletion (hclaim i) ht hr
    refine ⟨fun st hst hcode hdone => ?_, fun hi => ?_⟩
    · rcases hstatus with hsame | hopen
      · exact hold.status st hst (hsame ▸ hcode) hdone
      · rw [hopen.not_completed hst hcode] at hdone
        cases hdone
    · rw [hflag]
      exact hold.flag hi
  · rw [Operation.effect_of_ne ht] at hr
    cases hr
    exact hold

theorem call (h : m.Inv) {op : Operation} (hclaim : ∀ id, op ≠ .claimCompletionNotice id) :
    Inv (m.next (.call op)) := by
  rcases happly : m.store.apply op with e | ⟨o, store⟩
  · have hnext : m.next (.call op) = m := by simp only [next, happly]
    rwa [hnext]
  have hnext : m.next (.call op) =
      { m with store := m.store.after op, log := (logged op).toList ++ m.log } := by
    simp only [next, happly, Store.after_of_ok happly]
  have hok : (m.store.apply op).isOk = true := by
    rw [happly]
    rfl
  rw [hnext]
  unfold logged
  rcases hcompletion : op.completion? with _ | ⟨id, st⟩
  · exact h.other hcompletion hclaim
  · exact h.complete hcompletion hok

/-- A listing shows of each completed row what the log knows. -/
theorem list (h : m.Inv) : Inv (m.next .list) := by
  rcases hxs : m.store.snapshots with e | xs
  · have hnext : m.next .list = m := by simp only [next, hxs]
    rwa [hnext]
  have hnext : m.next .list = { m with ticks := m.ticks ++ [⟨xs, m.log.length⟩] } := by
    simp only [next, hxs]
  rw [hnext]
  refine ⟨h.reachable, h.fair, h.known, fun tick htick => ?_, h.recorded⟩
  rcases List.mem_append.mp htick with hold | hnew
  · exact h.listed tick hold
  obtain rfl := List.mem_singleton.mp hnew
  refine ⟨Nat.le_refl _, fun x hx c hc => ?_⟩
  obtain ⟨hreal, rfl⟩ := h.reachable.snapshots_eq_ok_iff.mp hxs
  obtain ⟨r, hr, rfl⟩ := List.mem_map.mp hx
  obtain ⟨st, n, hst, hcode, hdone, -, -, -, rfl⟩ :=
    (Store.completion?_view (h.reachable.sound_of_mem hr) (hreal r hr)).mp hc
  show (m.log.asOf m.log.length).status? r.id = some st
  rw [Log.asOf_length]
  exact (h.recorded r.id r (h.reachable.ordered.find?_eq_some hr)).status st hst hcode hdone

/-- A granted claim answers a completion that has no notice yet. -/
theorem pending_of_announce (h : m.Inv) {tick : OpenTick} (htick : tick ∈ m.ticks) {x : Snapshot}
    (hx : x ∈ tick.remaining) {n : Notice} (hn : (m.store.announce x).1 = some n) :
    m.log.pending n.id = true ∧ (m.log.asOf tick.listedAt).status? n.id = some n.status := by
  obtain ⟨c, hc, ⟨r, hr, hflag⟩, rfl⟩ := Store.announce_eq_some.mp hn
  have hlisted : (m.log.asOf tick.listedAt).status? c.id = some c.status :=
    (h.listed tick htick).status x hx c hc
  exact ⟨((h.recorded c.id r hr).flag (Log.status?_isSome_of_asOf hlisted)).mp hflag, hlisted⟩

theorem visit (h : m.Inv) (k : Nat) : Inv (m.next (.visit k)) := by
  rcases htick : m.ticks[k]? with _ | ⟨_ | ⟨x, xs⟩, t⟩
  · have hnext : m.next (.visit k) = m := by simp only [next, htick]
    rwa [hnext]
  · have hnext : m.next (.visit k) = m := by simp only [next, htick]
    rwa [hnext]
  have hnext : m.next (.visit k) =
      { store := (m.store.announce x).2
        ticks := m.ticks.set k ⟨xs, t⟩
        log := ((m.store.announce x).1.map (Entry.announced · t)).toList ++ m.log } := by
    simp only [next, htick]
  have hmem : ⟨x :: xs, t⟩ ∈ m.ticks := List.mem_of_getElem? htick
  have hlisted := h.listed _ hmem
  have hrest : OpenTick.Listed ⟨xs, t⟩ m.log :=
    ⟨hlisted.listedAt_le, fun y hy => hlisted.status y (List.mem_cons_of_mem x hy)⟩
  have hticks : ∀ tick ∈ m.ticks.set k ⟨xs, t⟩, tick.Listed m.log := by
    intro tick hset
    rcases List.mem_or_eq_of_mem_set hset with hold | rfl
    · exact h.listed tick hold
    · exact hrest
  have hlast := Int.le_of_eq (m.store.lastId_announce x).symm
  rw [hnext]
  rcases hn : (m.store.announce x).1 with _ | n
  · refine ⟨h.reachable.announce x, h.fair, fun i hi => Int.le_trans (h.known i hi) hlast, hticks,
      fun i r hr => ?_⟩
    change (m.store.announce x).2.find? i = some r at hr
    rw [Store.find?_announce, hn] at hr
    exact h.recorded i r (by simpa using hr)
  obtain ⟨hpending, hstatus⟩ := h.pending_of_announce hmem List.mem_cons_self hn
  refine ⟨h.reachable.announce x, h.fair.announced hpending hlisted.listedAt_le hstatus,
    fun i hi => Int.le_trans (h.known i hi) hlast, fun tick hset => (hticks tick hset).cons _,
    fun i r hr => ?_⟩
  change (m.store.announce x).2.find? i = some r at hr
  rw [Store.find?_announce, hn] at hr
  obtain ⟨r₀, hr₀, rfl⟩ := Option.map_eq_some_iff.mp hr
  simpa using (h.recorded i r₀ hr₀).announced n t

end Inv

/-- Steps without a claim of their own keep the invariant. -/
theorem inv_run (ss : List Step) (hss : ∀ id, Step.call (.claimCompletionNotice id) ∉ ss) :
    Inv (run ss) := by
  induction ss using List.reverseRecOn with
  | nil => exact inv_empty
  | append_singleton ss s ih =>
    replace ih := ih fun id hid => hss id (List.mem_append_left _ hid)
    rw [run_concat]
    cases s with
    | call op =>
      refine ih.call fun id hop => hss id (List.mem_append_right _ ?_)
      rw [hop]
      exact List.mem_cons_self
    | list => exact ih.list
    | visit k => exact ih.visit k

/-! ## At most one notice -/

/-- **At most one notice for each completion.** However calls and the steps of any ticks interleave,
a download has at most as many notices as completions, and at most one notice between two
completions. -/
theorem announced_le_completed (ss : List Step)
    (hss : ∀ id, Step.call (.claimCompletionNotice id) ∉ ss) (id : Int) :
    (run ss).log.countP (·.announces id) ≤ (run ss).log.countP (·.completes id) ∧
      ∀ between : Log, between <:+: (run ss).log → (∀ e ∈ between, e.completes id = false) →
        between.countP (·.announces id) ≤ 1 := by
  have hfair : (run ss).log.Fair := (inv_run ss hss).fair
  constructor
  · have hnil : (run ss).log ++ [] = (run ss).log := List.append_nil _
    have hle := Log.Fair.announced_le id (run ss).log (hnil.symm ▸ hfair)
    rw [hnil] at hle
    change _ ≤ _ + 0 at hle
    omega
  · rintro between ⟨newer, older, hlog⟩ hbetween
    rw [← hlog, List.append_assoc] at hfair
    have hle := hfair.of_append.announced_le id
    have hnone : between.countP (·.completes id) = 0 :=
      List.countP_eq_zero.mpr fun e he => by simp [hbetween e he]
    have hpending := Bool.toNat_le (Log.pending id older)
    omega

end

/-- Two ticks list the same failure, and visit it before and after the download is deleted. -/
def racingSteps : List Step :=
  [.call (.insert announcedDownload 0), .call (.markFailed 1 404 1), .list, .list, .list,
    .visit 1, .visit 0, .call (.delete 1), .visit 2]

theorem announced_le_completed_racingSteps :
    (∀ id, Step.call (.claimCompletionNotice id) ∉ racingSteps) ∧
      (run racingSteps).log =
        [.announced ⟨1, .failed 404, some "a", none⟩ 1, .completed 1 (.failed 404)] ∧
      (run racingSteps).log.countP (·.announces 1) ≤
        (run racingSteps).log.countP (·.completes 1) := by
  have hss : ∀ id, Step.call (.claimCompletionNotice id) ∉ racingSteps := by simp [racingSteps]
  exact ⟨hss, by decide +kernel, (announced_le_completed racingSteps hss 1).1⟩

end Interleaving

end Downloads
