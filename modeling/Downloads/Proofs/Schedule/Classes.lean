import Downloads.Proofs.Schedule.Listing
import Downloads.Proofs.Schedule.Report
import Mathlib.Data.List.Pairwise

/-!
# The classes of a listing

A tick puts each snapshot of a listing into one class: it is no record, its completion is to be
announced, it starts, the network holds it back, or nothing is to be done (`Scheduler.InClass`). A
report lists the ids of the classes in the order of the listing (`Scheduler.Sorts`). If the listing
names each download once, the lists tell the class of each download, and a question about a single
download is answered as the tick decided (`Scheduler.tick_classifies`).
-/

namespace Downloads

namespace Record

variable {xs : List Snapshot} {x : Snapshot} {b : Except RecordError Record} {r : Record}
  {words : RandomWords}

/-- What was built of a snapshot, beside the snapshot. -/
theorem exists_build_of_mem_zip (h : (x, b) ∈ xs.zip (buildAll xs words)) :
    ∃ words', b = (build x words').1 := by
  induction xs generalizing words with
  | nil => cases h
  | cons y xs ih =>
    rw [buildAll, List.zip_cons_cons, List.mem_cons, Prod.mk.injEq] at h
    rcases h with ⟨rfl, rfl⟩ | h
    · exact ⟨words, rfl⟩
    · exact ih h

theorem ok_of_mem_zip (h : (x, .ok r) ∈ xs.zip (buildAll xs words)) :
    ∃ r', ofSnapshot x = .ok r' ∧ r = { r' with jitterFuzz := r.jitterFuzz } := by
  obtain ⟨words', hb⟩ := exists_build_of_mem_zip h
  rcases hx : ofSnapshot x with e | r'
  · rw [build_of_error hx] at hb
    cases hb
  · rw [build_of_ok hx, Except.ok.injEq] at hb
    exact ⟨r', rfl, by rw [hb]⟩

theorem id?_of_mem_zip (h : (x, .ok r) ∈ xs.zip (buildAll xs words)) : x.id? = some r.id := by
  obtain ⟨r', hx, hr⟩ := ok_of_mem_zip h
  rw [Snapshot.id?_of_record hx, hr]

theorem exists_mem_zip_of_mem (words : RandomWords) (h : x ∈ xs) :
    ∃ b, (x, b) ∈ xs.zip (buildAll xs words) := by
  rw [← List.map_fst_zip (length_buildAll xs words).ge] at h
  obtain ⟨p, hmem, rfl⟩ := List.mem_map.mp h
  exact ⟨p.2, hmem⟩

theorem mem_listed : r ∈ listed xs words ↔ ∃ x, (x, .ok r) ∈ xs.zip (buildAll xs words) := by
  have hsnd := List.map_snd_zip (length_buildAll xs words).le
  constructor
  · intro h
    obtain ⟨_ | r', hb, hr⟩ := List.mem_filterMap.mp h <;> cases hr
    rw [← hsnd] at hb
    obtain ⟨p, hmem, hp⟩ := List.mem_map.mp hb
    exact ⟨p.1, hp ▸ hmem⟩
  · rintro ⟨x, hmem⟩
    exact List.mem_filterMap.mpr ⟨.ok r, (List.of_mem_zip hmem).2, rfl⟩

/-- In a listing that names each download once, an id leads to one snapshot. -/
theorem eq_of_mem_zip {y : Snapshot} {c : Except RecordError Record} {id : Int}
    (hxs : (xs.filterMap Snapshot.id?).Nodup) (hx : (x, b) ∈ xs.zip (buildAll xs words))
    (hy : (y, c) ∈ xs.zip (buildAll xs words)) (hxid : x.id? = some id) (hyid : y.id? = some id) :
    b = c := by
  have hids : (xs.zip (buildAll xs words)).Pairwise fun p q =>
      ∀ i, p.1.id? = some i → ∀ j, q.1.id? = some j → i ≠ j := by
    rw [← List.map_fst_zip (length_buildAll xs words).ge, List.filterMap_map] at hxs
    exact List.pairwise_filterMap.mp hxs
  have hsymm : Std.Symm fun p q : Snapshot × Except RecordError Record =>
      ∀ i, p.1.id? = some i → ∀ j, q.1.id? = some j → i ≠ j :=
    ⟨fun p q h i hi j hj => (h j hj i hi).symm⟩
  by_contra hne
  exact hids.forall hx hy (by simp [hne]) id hxid id hyid rfl

theorem nodup_listed (words : RandomWords) (hxs : (xs.filterMap Snapshot.id?).Nodup) :
    ((listed xs words).map (·.id)).Nodup := by
  refine hxs.sublist ?_
  clear hxs
  induction xs generalizing words with
  | nil => exact .slnil
  | cons x xs ih =>
    have hxs := ih (build x words).2
    rcases hx : ofSnapshot x with e | r
    · rw [build_of_error hx] at hxs
      have hlisted : listed (x :: xs) words = listed xs words := by
        simp only [listed, buildAll, build_of_error hx]
        rfl
      rw [hlisted, List.filterMap_cons]
      split
      · exact hxs
      · exact hxs.cons _
    · rw [build_of_ok hx] at hxs
      rw [List.filterMap_cons_some (Snapshot.id?_of_record hx)]
      simp only [listed, buildAll, build_of_ok hx]
      exact hxs.cons_cons r.id

end Record

/-! ## Classes -/

/-- What becomes of a snapshot in a tick. -/
inductive TickClass where
  /-- It is no record. -/
  | malformed
  /-- Its completion is to be announced. -/
  | completed
  /-- It is ready, and the network may be used. -/
  | starting
  /-- It is ready, but the network may not be used. -/
  | blocked
  /-- Nothing is to be done. -/
  | resting
  deriving DecidableEq

namespace Scheduler

variable {s : Scheduler} {now : Int} {b : Except RecordError Record} {c : TickClass} {r : Record}

/-- What was built of a snapshot falls into a class. -/
def InClass (s : Scheduler) (now : Int) (b : Except RecordError Record) : TickClass → Prop
  | .malformed => ∃ e, b = .error e
  | .completed => ∃ r, b = .ok r ∧ r.hasCompletionNotification = true
  | .starting => ∃ r, b = .ok r ∧ s.backoff.isReadyToStart r now = true ∧ s.networkAllows r = true
  | .blocked => ∃ r, b = .ok r ∧ s.backoff.isReadyToStart r now = true ∧ s.networkAllows r = false
  | .resting =>
    ∃ r, b = .ok r ∧ r.hasCompletionNotification = false ∧ s.backoff.isReadyToStart r now = false

/-- The first class that fits. -/
def classOf (s : Scheduler) (now : Int) : Except RecordError Record → TickClass
  | .error _ => .malformed
  | .ok r =>
    if r.hasCompletionNotification then .completed
    else if s.backoff.isReadyToStart r now then
      if s.networkAllows r then .starting else .blocked
    else .resting

theorem not_completion_of_ready (h : s.backoff.isReadyToStart r now = true) :
    r.hasCompletionNotification = false := by
  rcases hr : r.hasCompletionNotification with _ | _
  · rfl
  · rw [not_ready_of_completed (completed_of_completion hr)] at h
    cases h

/-- No other class fits than the first one. -/
theorem inClass_iff : s.InClass now b c ↔ s.classOf now b = c := by
  rcases b with e | r
  · cases c <;> simp [InClass, classOf]
  rcases hready : s.backoff.isReadyToStart r now with _ | _
  · rcases hr : r.hasCompletionNotification with _ | _ <;>
      cases c <;> simp [InClass, classOf, hready, hr]
  · have hr := not_completion_of_ready hready
    rcases hnetwork : s.networkAllows r with _ | _ <;>
      cases c <;> simp [InClass, classOf, hready, hr, hnetwork]

instance : Decidable (s.InClass now b c) := decidable_of_iff _ inClass_iff.symm

theorem existsUnique_inClass (s : Scheduler) (now : Int) (b : Except RecordError Record) :
    ∃! c, s.InClass now b c :=
  ⟨s.classOf now b, inClass_iff.mpr rfl, fun _ hc => (inClass_iff.mp hc).symm⟩

theorem exists_of_inClass (h : s.InClass now b c) (hc : c ≠ .malformed) : ∃ r, b = .ok r := by
  cases c with
  | malformed => exact absurd rfl hc
  | completed | starting | blocked | resting =>
    obtain ⟨r, hr, -⟩ := h
    exact ⟨r, hr⟩

/-- The ids of a class, in the order of the listing. -/
def idsIn (s : Scheduler) (now : Int) (c : TickClass) (built : List (Except RecordError Record)) :
    List Int :=
  (built.filter fun b => s.InClass now b c).filterMap fun b => b.toOption.map (·.id)

variable {built : List (Except RecordError Record)} {id : Int}

theorem mem_idsIn :
    id ∈ s.idsIn now c built ↔ ∃ r, .ok r ∈ built ∧ s.InClass now (.ok r) c ∧ r.id = id := by
  simp only [idsIn, List.mem_filterMap, List.mem_filter, decide_eq_true_eq]
  constructor
  · rintro ⟨e | r, ⟨hmem, hc⟩, hid⟩ <;> cases hid
    exact ⟨r, hmem, hc, rfl⟩
  · rintro ⟨r, hmem, hc, rfl⟩
    exact ⟨.ok r, ⟨hmem, hc⟩, rfl⟩

theorem idsIn_sublist (s : Scheduler) (now : Int) (c : TickClass)
    (built : List (Except RecordError Record)) :
    (s.idsIn now c built).Sublist ((built.filterMap Except.toOption).map (·.id)) := by
  rw [List.map_filterMap]
  exact List.filter_sublist.filterMap _

/-- A class of records, as a test of records. -/
theorem idsIn_eq {p : Record → Bool} (hc : c ≠ .malformed)
    (hp : ∀ r, s.InClass now (.ok r) c ↔ p r = true) :
    s.idsIn now c built = ((built.filterMap Except.toOption).filter p).map (·.id) := by
  induction built with
  | nil => rfl
  | cons b built ih =>
    rcases b with e | r
    · have he : ¬ s.InClass now (.error e) c := by
        intro h
        obtain ⟨r, hr⟩ := exists_of_inClass h hc
        cases hr
      simp only [idsIn, List.filter_cons, he] at ih ⊢
      exact ih
    · simp only [idsIn, List.filter_cons, List.filterMap_cons, hp, Except.toOption] at ih ⊢
      cases p r <;> simp [ih]

/-- What a tick reports of a listing, given what was built and which claims were granted. -/
structure Sorts (s : Scheduler) (now : Int) (xs : List Snapshot)
    (built : List (Except RecordError Record)) (granted : List Int) (t : TickReport) : Prop where
  toStart : t.toStart = s.idsIn now .starting built
  blocked : t.blockedOnNetwork = s.idsIn now .blocked built
  notified : t.notified = (s.idsIn now .completed built).filter (· ∈ granted)
  skipped : t.skipped = built.countP (s.InClass now · .malformed)
  /-- No id is in two lists, or twice in one. -/
  nodup : (t.toStart ++ t.blockedOnNetwork ++ t.notified).Nodup
  mem_toStart : ∀ x b id, (x, b) ∈ xs.zip built → x.id? = some id →
    (id ∈ t.toStart ↔ s.InClass now b .starting)
  mem_blocked : ∀ x b id, (x, b) ∈ xs.zip built → x.id? = some id →
    (id ∈ t.blockedOnNetwork ↔ s.InClass now b .blocked)
  mem_notified : ∀ x b id, (x, b) ∈ xs.zip built → x.id? = some id →
    (id ∈ t.notified ↔ s.InClass now b .completed ∧ id ∈ granted)
  /-- What its caller stopped, and what is over, does not start. -/
  idle : ∀ r, .ok r ∈ built → r.control = .paused ∨ r.status.isCompleted = true →
    r.id ∉ t.toStart ∧ r.id ∉ t.blockedOnNetwork

section

variable {xs : List Snapshot} {words : RandomWords}

/-- In a listing that names each download once, the lists tell the class of a download. -/
theorem mem_idsIn_iff (hxs : (xs.filterMap Snapshot.id?).Nodup) {x : Snapshot}
    (hx : (x, b) ∈ xs.zip (Record.buildAll xs words)) (hid : x.id? = some id)
    (hc : c ≠ .malformed) :
    id ∈ s.idsIn now c (Record.buildAll xs words) ↔ s.InClass now b c := by
  rw [mem_idsIn]
  constructor
  · -- The id could be that of another snapshot, if ids were not distinct.
    rintro ⟨r, hr, hclass, rfl⟩
    obtain ⟨y, hy⟩ := Record.mem_listed.mp (List.mem_filterMap.mpr ⟨.ok r, hr, rfl⟩)
    rwa [Record.eq_of_mem_zip hxs hx hy hid (Record.id?_of_mem_zip hy)]
  · intro hclass
    obtain ⟨r, rfl⟩ := exists_of_inClass hclass hc
    rw [Record.id?_of_mem_zip hx, Option.some.injEq] at hid
    exact ⟨r, (List.of_mem_zip hx).2, hclass, hid⟩

theorem not_mem_idsIn (hxs : (xs.filterMap Snapshot.id?).Nodup)
    (hr : .ok r ∈ Record.buildAll xs words) (hc : c ≠ .malformed)
    (h : ¬ s.InClass now (.ok r) c) : r.id ∉ s.idsIn now c (Record.buildAll xs words) := by
  obtain ⟨x, hx⟩ := Record.mem_listed.mp (List.mem_filterMap.mpr ⟨.ok r, hr, rfl⟩)
  rwa [mem_idsIn_iff hxs hx (Record.id?_of_mem_zip hx) hc]

/-- A download is in one class only. -/
theorem disjoint_idsIn (hxs : (xs.filterMap Snapshot.id?).Nodup) {d : TickClass}
    (hc : c ≠ .malformed) (hne : c ≠ d) :
    (s.idsIn now c (Record.buildAll xs words)).Disjoint
      (s.idsIn now d (Record.buildAll xs words)) := by
  intro id h h'
  obtain ⟨r, hr, hclass, rfl⟩ := mem_idsIn.mp h'
  refine not_mem_idsIn hxs hr hc (fun hclass' => ?_) h
  exact hne ((inClass_iff.mp hclass').symm.trans (inClass_iff.mp hclass))

theorem filter_mem_of_sublist {l L : List Int} (hL : L.Nodup) (h : l.Sublist L) :
    L.filter (· ∈ l) = l := by
  induction h with
  | slnil => rfl
  | @cons l L a h ih =>
    obtain ⟨ha, hL⟩ := List.nodup_cons.mp hL
    have hal : a ∉ l := fun hmem => ha (h.subset hmem)
    rw [List.filter_cons_of_neg (by simpa using hal), ih hL]
  | @cons_cons l L a h ih =>
    obtain ⟨ha, hL⟩ := List.nodup_cons.mp hL
    have hrest : L.filter (· ∈ a :: l) = L.filter (· ∈ l) := by
      refine List.filter_congr fun x hx => ?_
      have hxa : x ≠ a := fun h => ha (h ▸ hx)
      simp [hxa]
    rw [List.filter_cons_of_pos (by simp), hrest, ih hL]

theorem completions_eq_idsIn (s : Scheduler) (now : Int)
    (built : List (Except RecordError Record)) :
    Scan.completions built = s.idsIn now .completed built :=
  (idsIn_eq (c := .completed) (by decide) fun r => by simp [InClass]).symm

/-- The report of what was built of a listing sorts it. -/
theorem sorts_report (hxs : (xs.filterMap Snapshot.id?).Nodup) {granted : List Int}
    (hgranted : granted.Sublist (s.idsIn now .completed (Record.buildAll xs words))) :
    s.Sorts now xs (Record.buildAll xs words) granted
      (s.report now (Record.buildAll xs words) granted) := by
  set built := Record.buildAll xs words with hbuilt
  have hnodup : ∀ c, (s.idsIn now c built).Nodup := fun c =>
    (Record.nodup_listed words hxs).sublist (idsIn_sublist s now c built)
  have hstart : (s.report now built granted).toStart = s.idsIn now .starting built :=
    (idsIn_eq (c := .starting) (by decide) fun r => by simp [InClass, starts]).symm
  have hblocked : (s.report now built granted).blockedOnNetwork = s.idsIn now .blocked built :=
    (idsIn_eq (c := .blocked) (by decide) fun r => by simp [InClass, blocks]).symm
  have hnotified : (s.report now built granted).notified =
      (s.idsIn now .completed built).filter (· ∈ granted) :=
    (filter_mem_of_sublist (hnodup .completed) hgranted).symm
  constructor
  case toStart => exact hstart
  case blocked => exact hblocked
  case notified => exact hnotified
  case skipped =>
    refine List.countP_congr fun b _ => ?_
    rcases b with e | r <;> simp [InClass, Except.isOk, Except.toBool]
  case nodup =>
    rw [hstart, hblocked, hnotified]
    have hcompleted : ∀ c, c ≠ .malformed → c ≠ .completed →
        (s.idsIn now c built).Disjoint ((s.idsIn now .completed built).filter (· ∈ granted)) :=
      fun c hc hne =>
        List.disjoint_of_subset_right List.filter_sublist.subset (disjoint_idsIn hxs hc hne)
    have hready := (hnodup .starting).append (hnodup .blocked)
      (disjoint_idsIn hxs (by decide) (by decide))
    refine hready.append ((hnodup .completed).filter _) ?_
    rw [List.disjoint_append_left]
    exact ⟨hcompleted .starting (by decide) (by decide),
      hcompleted .blocked (by decide) (by decide)⟩
  case mem_toStart =>
    intro x b id hx hid
    rw [hstart]
    exact mem_idsIn_iff hxs hx hid (by decide)
  case mem_blocked =>
    intro x b id hx hid
    rw [hblocked]
    exact mem_idsIn_iff hxs hx hid (by decide)
  case mem_notified =>
    intro x b id hx hid
    rw [hnotified, List.mem_filter, decide_eq_true_eq]
    exact and_congr_left fun _ => mem_idsIn_iff hxs hx hid (by decide)
  case idle =>
    intro r hr h
    have hready : s.backoff.isReadyToStart r now = false := by
      rcases h with h | h
      · exact not_ready_of_paused h s.backoff
      · exact not_ready_of_completed h s.backoff
    rw [hstart, hblocked]
    exact ⟨not_mem_idsIn hxs hr (by decide) (by simp [InClass, hready]),
      not_mem_idsIn hxs hr (by decide) (by simp [InClass, hready])⟩

/-- A question about a single download is answered as a tick with the same jitter decides. -/
theorem shouldStart_iff {σ : Type} [RecordStore σ] {store : σ}
    (hxs : (xs.filterMap Snapshot.id?).Nodup)
    (h : RecordStore.snapshot? store id = .ok (xs.find? fun x => x.id? == some id))
    {w : RandomWords}
    (hw : ∀ r, .ok r ∈ Record.buildAll xs words → r.id = id → w.drawJitter.1 = r.jitterFuzz) :
    (s.shouldStart store id now w).1 = .ok true ↔
      id ∈ s.idsIn now .starting (Record.buildAll xs words) := by
  rcases hfind : xs.find? fun x => x.id? == some id with _ | x
  · have hid : id ∉ s.idsIn now .starting (Record.buildAll xs words) := by
      intro hmem
      obtain ⟨r, hr, -, rfl⟩ := mem_idsIn.mp hmem
      obtain ⟨x, hx⟩ := Record.mem_listed.mp (List.mem_filterMap.mpr ⟨.ok r, hr, rfl⟩)
      have hne := List.find?_eq_none.mp hfind x (List.of_mem_zip hx).1
      exact hne (by rw [Record.id?_of_mem_zip hx, beq_self_eq_true])
    simp only [shouldStart, load, h, hfind, hid, iff_false]
    exact nofun
  have hid : x.id? = some id := by simpa using List.find?_some hfind
  obtain ⟨b, hb⟩ := Record.exists_mem_zip_of_mem words (List.mem_of_find?_eq_some hfind)
  rw [mem_idsIn_iff (c := .starting) hxs hb hid (by decide)]
  obtain ⟨words', rfl⟩ := Record.exists_build_of_mem_zip hb
  simp only [shouldStart, load, h, hfind]
  rcases hx : Record.ofSnapshot x with e | r
  · simp only [Record.build_of_error hx]
    refine iff_of_false nofun ?_
    rintro ⟨r, hr, -⟩
    cases hr
  · rw [Record.build_of_ok hx] at hb
    have hrid := Record.id?_of_mem_zip hb
    rw [hid, Option.some.injEq] at hrid
    rw [Record.build_of_ok hx, Record.build_of_ok hx, hw _ (List.of_mem_zip hb).2 hrid.symm]
    simp [InClass, Except.map]

end

/-- **The classes of a tick.** A tick over a listing that names each download once puts each
snapshot into exactly one class, claims the completions in turn, and reports the classes unless a
claim fails. A download that the store finds where it lists it is said to start exactly if the tick
lists it to start. -/
theorem tick_classifies {σ : Type} [RecordStore σ] (s : Scheduler) (now : Int) {store : σ}
    {xs : List Snapshot} (h : RecordStore.snapshots store = .ok xs)
    (hxs : (xs.filterMap Snapshot.id?).Nodup) (words : RandomWords) (notifier : Notifier) :
    let built := Record.buildAll xs words
    let claims := (RecordStore.claimAll store (s.idsIn now .completed built)).1
    built.length = xs.length ∧ (∀ b ∈ built, ∃! c, s.InClass now b c) ∧
      match (s.tick now store words notifier).1 with
      | .error e => claims = .error e
      | .ok t => ∃ granted, claims = .ok granted ∧ s.Sorts now xs built granted t ∧
          ∀ id w, RecordStore.snapshot? store id = .ok (xs.find? fun x => x.id? == some id) →
            (∀ r, .ok r ∈ built → r.id = id → w.drawJitter.1 = r.jitterFuzz) →
            (id ∈ t.toStart ↔ (s.shouldStart store id now w).1 = .ok true) := by
  intro built claims
  refine ⟨Record.length_buildAll xs words, fun b _ => s.existsUnique_inClass now b, ?_⟩
  have htick := (s.tick_eq now h words notifier).1
  rw [completions_eq_idsIn s now] at htick
  rw [htick]
  show match claims.map (s.report now built) with | .error e => _ | .ok t => _
  rcases hclaims : claims with e | granted
  · rfl
  have hsorts : s.Sorts now xs built granted (s.report now built granted) :=
    sorts_report hxs (RecordStore.claimAll_sublist store hclaims)
  refine ⟨granted, rfl, hsorts, fun id w hid hw => ?_⟩
  rw [hsorts.toStart]
  exact (shouldStart_iff hxs hid hw).symm

end Scheduler

/-! ## A store with all classes -/

/-- A scheduler on a network that roams. -/
def roamingScheduler : Scheduler := ⟨.ofBase 30, ⟨true, true, .mobile⟩⟩

/-- Rows of which two start, the network holds one back, one is to be announced, another program
gave one an unknown status, and one waits. -/
def mixedStore : Store where
  rows :=
    [announcedDownload.row 1 0,
      { announcedDownload.row 2 0 with status := .int 7 },
      { announcedDownload.row 3 0 with destination := .cacheNoRoaming },
      { announcedDownload.row 4 0 with status := .int 404 },
      { announcedDownload.row 5 0 with control := .paused },
      { announcedDownload.row 6 0 with status := .int 193, numFailed := .int 1 },
      { announcedDownload.row 7 0 with status := .int 192 }]
  headers := []
  lastId := 7

theorem Scheduler.tick_classifies_mixedStore :
    RecordStore.snapshots mixedStore = .ok (mixedStore.rows.map mixedStore.view) ∧
      (roamingScheduler.shouldStart mixedStore 7 1 ⟨[], 0⟩).1 = .ok true ∧
      ∃ granted, roamingScheduler.Sorts 1 (mixedStore.rows.map mixedStore.view)
        (Record.buildAll (mixedStore.rows.map mixedStore.view) ⟨[], 0⟩) granted
        { toStart := [1, 7]
          blockedOnNetwork := [3]
          nextWakeupMs := some 29999
          notified := [4]
          skipped := 1 } := by
  have hlisted : RecordStore.snapshots mixedStore =
      .ok (mixedStore.rows.map mixedStore.view) := by decide +kernel
  have hids : ((mixedStore.rows.map mixedStore.view).filterMap Snapshot.id?).Nodup := by
    rw [mixedStore.ids_of_snapshots hlisted]
    decide
  have hreport : (roamingScheduler.tick 1 mixedStore ⟨[], 0⟩ .log).1 =
      .ok { toStart := [1, 7], blockedOnNetwork := [3], nextWakeupMs := some 29999,
            notified := [4], skipped := 1 } := by decide +kernel
  have hjitter : ∀ b ∈ Record.buildAll (mixedStore.rows.map mixedStore.view) ⟨[], 0⟩,
      (b.toOption.map (·.jitterFuzz)).getD 0 = 0 := by decide +kernel
  obtain ⟨-, -, htick⟩ := roamingScheduler.tick_classifies 1 hlisted hids ⟨[], 0⟩ .log
  rw [hreport] at htick
  obtain ⟨granted, -, hsorts, hstart⟩ := htick
  have hfound := mixedStore.snapshot?_of_snapshots hlisted 7
  refine ⟨hlisted, (hstart 7 ⟨[], 0⟩ hfound ?_).mp (by decide), granted, hsorts⟩
  intro r hr _
  exact (hjitter _ hr).symm

end Downloads
