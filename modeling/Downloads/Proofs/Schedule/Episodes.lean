import Downloads.Proofs.Schedule.History
import Downloads.Proofs.Store.Completion

/-!
# Notices over whole histories

The completion of a download starts an episode, which the next call that sets its status ends. The
first tick of an episode announces it, and no other tick does. The invariant is that the row of a
download in an episode has the status of the episode, is armed until the first tick, and is claimed
from then on if its completion is to be announced (`Episode.Fits`). Outside of episodes its status
is not final.
-/

namespace Downloads

/-- The episode of a download that completed. -/
structure Episode where
  /-- What it completed with. -/
  status : Status
  /-- The number of ticks since then that did not fail. -/
  ticks : Nat
  deriving Repr, DecidableEq

namespace Episode

/-- What a successful call makes of the episode of its download. -/
def after (e : Option Episode) : Operation → Option Episode
  | .markSuccess .. => some ⟨.success, 0⟩
  | .markFailed _ code _ => some ⟨.failed code, 0⟩
  | .markRunning .. | .markWaiting .. | .markPausedForRetry .. | .delete _ => none
  | _ => e

section

variable [Url.HostNames]

/-- The episode of a download after an event. -/
def next (id : Int) (s : Store) (e : Option Episode) : Event → Option Episode
  | .call op => if op.target? = some id ∧ (s.apply op).isOk then after e op else e
  | .tick scheduler now words notifier =>
    if (scheduler.tick now s words notifier).1.isOk then e.map fun e => ⟨e.status, e.ticks + 1⟩
    else e

/-- The episode of a download after events on an empty store. -/
def current (id : Int) (es : List Event) : Option Episode :=
  (es.foldl (fun (s, e) event => (s.step event, next id s e event)) (Store.empty, none)).2

theorem current_concat (id : Int) (es : List Event) (event : Event) :
    current id (es ++ [event]) = next id (Store.history es) (current id es) event := by
  have hstore : (es.foldl (fun (s, e) event => (s.step event, next id s e event))
      (Store.empty, none)).1 = Store.history es :=
    Store.fst_foldl Store.step (next id) es Store.empty none
  simp only [current, List.foldl_append, List.foldl_cons, List.foldl_nil]
  rw [hstore]

end

end Episode

/-! ## The invariant -/

/-- The row is in its episode. -/
structure Episode.Fits (e : Episode) (r : Row) : Prop where
  completed : e.status.isCompleted = true
  storable : e.status.Storable
  status : r.status = .int e.status.code
  armed : e.ticks = 0 → r.completionNotified = .int 0
  claimed : e.ticks ≠ 0 → r.Announceable → r.completionNotified = .int 1

/-- What is stored of a download fits its episode. -/
def Episode.Agrees : Option Episode → Option Row → Prop
  | none, none => True
  | some _, none => False
  | none, some r => r.Unfinished
  | some e, some r => e.Fits r

namespace Episode

variable {s : Store} {id : Int} {r r' : Row} {e : Option Episode}

/-- Only the status, the visibility, the count of failures and the flag matter. -/
theorem Agrees.congr (h : Agrees e (some r)) (hstatus : r'.status = r.status)
    (hvisibility : r'.visibility = r.visibility) (hfailed : r'.numFailed = r.numFailed)
    (hflag : r'.completionNotified = r.completionNotified) : Agrees e (some r') := by
  rcases e with _ | e
  · obtain ⟨st, hst, hcode, hopen⟩ := h
    exact ⟨st, hst, hstatus.trans hcode, hopen⟩
  · refine ⟨h.completed, h.storable, hstatus.trans h.status, fun h0 => hflag.trans (h.armed h0),
      fun h0 hr => hflag.trans (h.claimed h0 ?_)⟩
    unfold Row.Announceable Row.Builds at hr ⊢
    rwa [hvisibility, hfailed] at hr

/-- A completion that was just stored starts an episode. -/
theorem fits_start {st : Status} (hdone : st.isCompleted = true) (hst : st.Storable)
    (hstatus : r.status = .int st.code) (hflag : r.completionNotified = .int 0) :
    (Episode.mk st 0).Fits r :=
  ⟨hdone, hst, hstatus, fun _ => hflag, fun h0 => absurd rfl h0⟩

theorem after_of_completion {op : Operation} {st : Status} (h : op.completion? = some (id, st))
    (e : Option Episode) : after e op = some ⟨st, 0⟩ := by
  obtain ⟨code, now, rfl, rfl⟩ | ⟨p, now, rfl, rfl⟩ := Operation.completion?_eq_some h <;> rfl

theorem completion_of_target {op : Operation} {i : Int} {st : Status}
    (ht : op.target? = some id) (h : op.completion? = some (i, st)) : i = id := by
  rw [Operation.target?_of_completion h] at ht
  exact Option.some.inj ht

variable [Url.HostNames]

theorem next_of_ok {op : Operation} (ht : op.target? = some id) (hok : (s.apply op).isOk = true) :
    next id s e (.call op) = after e op := if_pos ⟨ht, hok⟩

theorem next_of_not {op : Operation} (h : ¬ (op.target? = some id ∧ (s.apply op).isOk = true)) :
    next id s e (.call op) = e := if_neg h

/-- A call that is no claim keeps a stored download in its episode, or moves it to the next. -/
theorem Agrees.call (hr : s.find? id = some r) (hsound : r.Sound) (h : Agrees e (some r))
    {op : Operation} (hop : op ≠ .claimCompletionNotice id) :
    Agrees (next id s e (.call op)) (op.effect id r) := by
  by_cases ht : op.target? = some id
  swap
  · rw [Operation.effect_of_ne ht, next_of_not fun hand => ht hand.1]
    exact h
  by_cases hok : (s.apply op).isOk = true
  swap
  · rw [Store.effect_of_not_isOk hr hok, next_of_not fun hand => hok hand.2]
    exact h
  rw [next_of_ok ht hok, Operation.effect_of_target ht]
  rcases hcompletion : op.completion? with _ | ⟨i, st⟩
  swap
  · obtain rfl := completion_of_target ht hcompletion
    have hst : st.Storable := ((Store.isOk_of_completion hcompletion).mp hok).2
    obtain ⟨r', hr', hstatus, hflag⟩ := Operation.change_of_completion hcompletion hst r
    rw [after_of_completion hcompletion, hr']
    exact fits_start (Operation.isCompleted_of_completion hcompletion) hst hstatus hflag
  obtain ⟨field, hfield⟩ := hsound.retryRedirect
  cases op with
  | insert => cases ht
  | markFailed | markSuccess => cases hcompletion
  | claimCompletionNotice =>
    cases ht
    exact absurd rfl hop
  | delete => exact trivial
  | markRunning => exact Row.unfinished .running rfl rfl
  | markWaiting => exact Row.unfinished .runningPaused rfl rfl
  | markPausedForRetry =>
    simp only [Operation.change, hfield, Cell.readInt]
    exact Row.unfinished .runningPaused rfl rfl
  | recordRedirect =>
    simp only [Operation.change, hfield, Cell.readInt]
    exact h.congr rfl rfl rfl rfl
  | addHeader => exact h
  | setControl | updateProgress => exact h.congr rfl rfl rfl rfl

/-- A call on a download that is not stored starts no episode. -/
theorem next_of_absent (hr : s.find? id = none) (op : Operation) :
    next id s none (.call op) = none := by
  by_cases hand : op.target? = some id ∧ (s.apply op).isOk = true
  swap
  · exact next_of_not hand
  obtain ⟨ht, hok⟩ := hand
  rw [next_of_ok ht hok]
  rcases hcompletion : op.completion? with _ | ⟨i, st⟩
  · cases op <;> cases hcompletion <;> rfl
  · obtain rfl := completion_of_target ht hcompletion
    have hfind := ((Store.isOk_of_completion hcompletion).mp hok).1
    rw [hr] at hfind
    cases hfind

/-- A tick that did not fail announces the episodes that no tick has seen. -/
theorem Agrees.tick (hreach : s.Reachable) (h : Agrees e (s.find? id)) (scheduler : Scheduler)
    (now : Int) (words : RandomWords) (notifier : Notifier) :
    Agrees (next id s e (.tick scheduler now words notifier))
      ((scheduler.tick now s words notifier).2.store.find? id) := by
  show Agrees (if (scheduler.tick now s words notifier).1.isOk = true then
    e.map fun e => ⟨e.status, e.ticks + 1⟩ else e) _
  rcases hxs : s.snapshots with err | xs
  · rw [scheduler.tick_of_error now hxs]
    exact h
  obtain ⟨report, words', htick, -⟩ := scheduler.tick_of_snapshots now hxs words notifier
  rw [htick]
  show Agrees (e.map fun e => ⟨e.status, e.ticks + 1⟩) ((s.announceAll xs).2.find? id)
  rw [Store.find?_announceAll]
  rcases hr : s.find? id with _ | r <;> rw [hr] at h
  · rcases e with _ | e
    · exact trivial
    · exact h
  rcases e with _ | e
  · obtain ⟨st, hst, hcode, hopen⟩ := h
    refine ⟨st, hst, ?_, hopen⟩
    split <;> exact hcode
  refine ⟨h.completed, h.storable, ?_, nofun, fun _ hannounce => ?_⟩
  · split <;> exact h.status
  by_cases hmem : id ∈ (s.announceAll xs).1.map (·.id)
  · simp only [if_pos hmem]
    rfl
  simp only [if_neg hmem] at hannounce ⊢
  by_cases h0 : e.ticks = 0
  · -- The first tick would have announced it.
    have hnotice : Notice.mk id e.status r.title r.target ∈ (s.announceAll xs).1 :=
      (hreach.mem_announceAll hxs).mpr
        ⟨e.status, r, hr, h.armed h0, h.storable, h.status, h.completed, hannounce, rfl⟩
    exact absurd (List.mem_map.mpr ⟨_, hnotice, rfl⟩) hmem
  · exact h.claimed h0 hannounce

/-- What is stored of every download fits its episode. -/
theorem agrees_history (es : List Event)
    (hes : ∀ id, Event.call (.claimCompletionNotice id) ∉ es) (id : Int) :
    Agrees (current id es) ((Store.history es).find? id) := by
  induction es using List.reverseRecOn with
  | nil => exact trivial
  | append_singleton es event ih =>
    have hreach := Store.reachable_history es
    replace ih := ih fun i hi => hes i (List.mem_append_left _ hi)
    rw [current_concat, Store.history_concat]
    cases event with
    | tick scheduler now words notifier => exact ih.tick hreach scheduler now words notifier
    | call op =>
      have hop : op ≠ .claimCompletionNotice id := by
        rintro rfl
        exact hes id (List.mem_append_right _ List.mem_cons_self)
      show Agrees _ (((Store.history es).after op).find? id)
      rcases hr : (Store.history es).find? id with _ | r
      · rw [hr] at ih
        obtain he : current id es = none := by
          rcases hc : current id es with _ | e
          · rfl
          · rw [hc] at ih
            exact ih.elim
        rw [he, next_of_absent hr]
        rcases hr' : ((Store.history es).after op).find? id with _ | r'
        · exact trivial
        · obtain ⟨d, now, -, -, rfl⟩ := Store.find?_after_of_none hr hr'
          exact Row.unfinished .pending rfl rfl
      · rw [Store.find?_after_of_some op hr]
        rw [hr] at ih
        exact ih.call hr (hreach.sound hr) hop

end Episode

/-! ## Notices -/

namespace Store

/-- **Exactly one notice for each episode.** Take any history without direct claims, and any tick
after it. If the tick succeeds, it hands a notice to the notifier and reports its id for exactly
those downloads whose episode no successful tick has seen, provided that the download is a record
and its caller wants a notice. The notice carries the status of the episode, and the title and
target of the row, and a box with room holds it from then on. A tick fails if and only if a download
has more failures since it was added or last succeeded than 64 bits can count, and then it changes
nothing. -/
theorem tick_announces_episodes [Url.HostNames] (es : List Event)
    (hes : ∀ id, Event.call (.claimCompletionNotice id) ∉ es) (scheduler : Scheduler) (now : Int)
    (words : RandomWords) (notifier : Notifier) :
    match scheduler.tick now (history es) words notifier with
    | (.ok report, t) => CountsFit es ∧
      ∃ notices : List Notice, (notices.map (·.id)).Nodup ∧
        (∀ n, n ∈ notices ↔ ∃ st r, Episode.current n.id es = some ⟨st, 0⟩ ∧
          (history es).find? n.id = some r ∧ r.visibility = .visibleNotifyCompleted ∧
          (history es).Builds n.id ∧ n = ⟨n.id, st, r.title, r.target⟩) ∧
        report.notified = notices.map (·.id) ∧ t.notifier = notifier.holding notices ∧
        ∀ m, notifier = .box m → m.connected = true →
          m.waiting.length + notices.length ≤ m.capacity →
          t.notifier = .box { m with waiting := m.waiting ++ notices }
    | (.error e, t) => ¬ CountsFit es ∧
      e = .database (.notAnInteger Column.numFailed.index true .real) ∧
      t = ⟨history es, words, notifier, {}⟩ := by
  have hreach := reachable_history es
  obtain ⟨hfit, xs, hxs⟩ | ⟨hfit, herror⟩ := snapshots_history es
  swap
  · rw [scheduler.tick_of_error now herror]
    exact ⟨hfit, rfl, rfl⟩
  obtain ⟨report, words', htick, hnotified⟩ := scheduler.tick_of_snapshots now hxs words notifier
  rw [htick]
  refine ⟨hfit, ((history es).announceAll xs).1, hreach.nodup_announceAll hxs, fun n => ?_,
    hnotified, notifier.foldl_notify _, fun m hbox hconnected hroom => ?_⟩
  swap
  · rw [hbox, Notifier.foldl_notify, Notifier.holding_of_room hconnected hroom]
  rw [hreach.mem_announceAll hxs]
  have hagrees := Episode.agrees_history es hes n.id
  have hreal := (hreach.snapshots_eq_ok_iff.mp hxs).1
  constructor
  · rintro ⟨st, r, hr, hflag, hst, hcode, hdone, ⟨hvisible, hbuilds⟩, hn⟩
    refine ⟨st, r, ?_, hr, hvisible, ?_, hn⟩
    · rw [hr] at hagrees
      rcases hc : Episode.current n.id es with _ | ⟨st', ticks⟩ <;> rw [hc] at hagrees
      · rw [hagrees.not_completed hst hcode] at hdone
        cases hdone
      · obtain rfl : st = st' := Status.eq_of_code hst hagrees.storable hcode hagrees.status
        obtain rfl : ticks = 0 := by
          by_contra h0
          have hclaimed := hagrees.claimed h0 ⟨hvisible, hbuilds⟩
          rw [hflag] at hclaimed
          cases hclaimed
        rfl
    · exact (hreach.builds_iff hr (hreal r (mem_of_find? hr))).mpr hbuilds
  · rintro ⟨st, r, hc, hr, hvisible, hbuilds, hn⟩
    rw [hr, hc] at hagrees
    refine ⟨st, r, hr, hagrees.armed rfl, hagrees.storable, hagrees.status, hagrees.completed,
      ⟨hvisible, ?_⟩, hn⟩
    exact (hreach.builds_iff hr (hreal r (mem_of_find? hr))).mp hbuilds

/-- A scheduler on a network that is there. -/
def onlineScheduler : Scheduler := ⟨.ofBase 30, .online .wifi⟩

/-- Two downloads that want notices. -/
def pairRun : List Operation := [.insert announcedDownload 0, .insert announcedDownload 0]

/-- The second download fails so many times before the first one succeeds. -/
def silencedHistory (n : Nat) : List Event :=
  (pairRun ++ failuresInARow 2 n).map .call ++ [.call (.markSuccess 1 ⟨5, "a", none⟩ 1)]

theorem find?_pairRun_failuresInARow (n : Nat) :
    let s := empty.run (pairRun ++ failuresInARow 2 n)
    s.find? 1 = some (announcedDownload.row 1 0) ∧
      ∃ r, s.find? 2 = some r ∧ r.numFailed = .count n := by
  have hfirst : (empty.run pairRun).find? 1 = some (announcedDownload.row 1 0) := by
    decide +kernel
  have hsecond : ((empty.run pairRun).find? 2).isSome = true := by decide +kernel
  have hnone : Operation.waits 2 (callsSinceStart 2 pairRun) = [] := by decide +kernel
  exact ⟨find?_failuresInARow_of_ne (by decide) hfirst n, exists_failuresInARow hsecond hnone n⟩

/-- The first download is a record, its caller wants a notice, and no tick came since it succeeded.
The next tick tells nobody, as the failures of the second download cannot be counted. -/
theorem not_announces_silencedHistory :
    let es := silencedHistory (2 ^ 63)
    (∀ event ∈ es, ∃ op, event = .call op ∧ ∀ id, op ≠ .claimCompletionNotice id) ∧
      Episode.current 1 es = some ⟨.success, 0⟩ ∧
      (∃ r, (history es).find? 1 = some r ∧ r.visibility = .visibleNotifyCompleted) ∧
      (history es).Builds 1 ∧
      let tick := onlineScheduler.tick 2 (history es) ⟨[], 0⟩ (.box (.ofCapacity 1))
      (∀ report, tick.1 ≠ .ok report) ∧ tick.2.report.notified = [] ∧
        tick.2.notifier = .box (.ofCapacity 1) := by
  -- No step of the argument is to look at the run itself, which is as long as it is.
  generalize hn : 2 ^ 63 = n
  intro es
  obtain ⟨hfirst, r, hsecond, hcount⟩ := find?_pairRun_failuresInARow n
  have hreal : r.numFailed = .real := hcount.trans (Cell.count_eq_real_iff.mpr (Nat.le_of_eq hn))
  have hstore : history es = (empty.run (pairRun ++ failuresInARow 2 n)).after
      (.markSuccess 1 ⟨5, "a", none⟩ 1) := by
    rw [← history_map_call]
    exact history_concat _ _
  have hreach : (history es).Reachable := reachable_history es
  have hrow : (history es).find? 1 =
      some ((announcedDownload.row 1 0).succeeded ⟨5, "a", none⟩ 1) := by
    rw [hstore, find?_after_of_some _ hfirst, Operation.effect_of_target rfl]
    rfl
  have hfailed : (history es).find? 2 = some r := by
    rw [hstore, find?_after_of_some _ hsecond, Operation.effect_of_ne (by decide)]
  refine ⟨fun event hevent => ?_, ?_, ⟨_, hrow, rfl⟩, ?_, ?_⟩
  · simp only [es, silencedHistory, List.mem_append, List.mem_map, List.mem_singleton] at hevent
    obtain ⟨op, hop, rfl⟩ | rfl := hevent
    · refine ⟨op, rfl, ?_⟩
      rintro id rfl
      simp [pairRun, failuresInARow] at hop
    · refine ⟨_, rfl, fun id h => ?_⟩
      cases h
  · have hcompletion : (Operation.markSuccess 1 ⟨5, "a", none⟩ 1).completion? =
        some (1, .success) := rfl
    have hok := (isOk_of_completion hcompletion).mpr
      ⟨by rw [hfirst]; rfl, Status.storable_success⟩
    show Episode.current 1 (_ ++ _) = _
    rw [Episode.current_concat, history_map_call, Episode.next_of_ok rfl hok]
    rfl
  · exact (hreach.builds_iff hrow (by decide)).mpr ⟨0, rfl, by decide⟩
  · have hlisted := hreach.snapshots_of_real ⟨r, mem_of_find? hfailed, hreal⟩
    rw [onlineScheduler.tick_of_error 2 hlisted]
    refine ⟨fun report h => ?_, rfl, rfl⟩
    cases h

/-- A history in which a download fails, is announced, is tried again and succeeds. -/
def retriedHistory : List Event :=
  [.call (.insert announcedDownload 0), .call (.markFailed 1 404 1),
    .tick onlineScheduler 2 ⟨[], 0⟩ .log, .call (.markRunning 1 3),
    .call (.markSuccess 1 ⟨5, "a", none⟩ 4), .call (.setControl 1 .paused 5)]

/-- The row that the history leaves. -/
def retriedRow : Row :=
  { announcedDownload.row 1 0 with
    control := .paused
    status := .int 200
    lastModifiedMs := .int 5
    totalBytes := .int 5
    currentBytes := .int 5
    filePath := some "a" }

/-- The notice of the second success. -/
def retriedNotice : Notice := ⟨1, .success, some "a", none⟩

theorem tick_announces_retriedHistory :
    (∀ id, Event.call (.claimCompletionNotice id) ∉ retriedHistory) ∧
      ∃ (report : TickReport) (t : Scan Store),
        onlineScheduler.tick 6 (history retriedHistory) ⟨[], 0⟩ (.box (.ofCapacity 1)) =
          (.ok report, t) ∧
        report.notified = [1] ∧
        t.notifier = .box { capacity := 1, waiting := [retriedNotice] } := by
  have hes : ∀ id, Event.call (.claimCompletionNotice id) ∉ retriedHistory := by
    simp [retriedHistory]
  have hepisode : Episode.current 1 retriedHistory = some ⟨.success, 0⟩ := by decide +kernel
  have hrow : (history retriedHistory).find? 1 = some retriedRow := by decide +kernel
  have hrows : (history retriedHistory).rows = [retriedRow] := by decide +kernel
  have hbuilds : (history retriedHistory).Builds 1 :=
    ((reachable_history retriedHistory).builds_iff hrow nofun).mpr ⟨0, rfl, by decide⟩
  have hfit : CountsFit retriedHistory :=
    countsFit_iff.mpr (by simp [hrows, retriedRow, NewDownload.row])
  have htick := tick_announces_episodes retriedHistory hes onlineScheduler 6 ⟨[], 0⟩
    (.box (.ofCapacity 1))
  refine ⟨hes, ?_⟩
  rcases ht : onlineScheduler.tick 6 (history retriedHistory) ⟨[], 0⟩ (.box (.ofCapacity 1)) with
    ⟨_ | report, t⟩ <;> rw [ht] at htick
  · exact absurd hfit htick.1
  obtain ⟨-, notices, hnodup, hmem, hnotified, -, hbox⟩ := htick
  -- The download is the only one, so its notice is the only one.
  have honly : ∀ n ∈ notices, n = retriedNotice := by
    intro n hn
    obtain ⟨st, r, hst, hr, -, -, hnotice⟩ := (hmem n).mp hn
    have hr₁ : r = retriedRow := by simpa [hrows] using mem_of_find? hr
    have hid : n.id = 1 := by rw [← id_of_find? hr, hr₁]; rfl
    rw [hid, hepisode, Option.some.injEq, Episode.mk.injEq] at hst
    rw [hnotice, hid, hr₁, ← hst.1]
    rfl
  have hnotice : retriedNotice ∈ notices :=
    (hmem _).mpr ⟨.success, retriedRow, hepisode, hrow, rfl, hbuilds, rfl⟩
  have hnotices : notices = [retriedNotice] := by
    rw [List.eq_replicate_of_mem honly] at hnodup hnotice ⊢
    rw [List.map_replicate, List.nodup_replicate] at hnodup
    have hpos := List.length_pos_of_mem hnotice
    rw [List.length_replicate] at hpos
    rw [Nat.le_antisymm hnodup hpos]
    rfl
  refine ⟨report, t, rfl, by rw [hnotified, hnotices]; rfl, ?_⟩
  rw [hbox (.ofCapacity 1) rfl rfl (by rw [hnotices]; decide), hnotices]
  rfl

end Store

end Downloads
