import Downloads.Proofs.Schedule.Announce
import Downloads.Proofs.Store.Snapshots

/-!
# What a tick finds in the store

A store that came about by calls can be listed unless a count of failures left the 64 bits. A row
of the listing is a record if its count has 32 bits, and its completion is announced if it is
complete and its caller wants that. So a tick hands out one notice for each armed row of this kind,
with the status, the title and the target of the row (`Reachable.mem_announceAll`).
-/

namespace Downloads

variable {s : Store} {r : Row}

theorem filterMap_sublist_map {α β : Type} {f : α → Option β} {g : α → β} {xs : List α}
    (h : ∀ x ∈ xs, ∀ y, f x = some y → y = g x) : (xs.filterMap f).Sublist (xs.map g) := by
  induction xs with
  | nil => exact .slnil
  | cons x xs ih =>
    have hxs := ih fun y hy => h y (List.mem_cons_of_mem x hy)
    rw [List.map_cons]
    rcases hx : f x with _ | y
    · rw [List.filterMap_cons_none hx]
      exact hxs.cons (g x)
    · rw [List.filterMap_cons_some hx, h x List.mem_cons_self y hx]
      exact hxs.cons_cons (g x)

/-- A download that wants a notice. -/
def announcedDownload : NewDownload :=
  { uri := "https://example.com/a", visibility := .visibleNotifyCompleted, title := some "a" }

/-- The completion is announced once it is there. -/
def Row.Announceable (r : Row) : Prop := r.visibility = .visibleNotifyCompleted ∧ r.Builds

namespace Store

/-- The completion of a row is announced with its status, title and target. -/
theorem completion?_view (h : r.Sound) (hreal : r.numFailed ≠ .real) {c : Record} :
    (s.view r).completion? = some c ↔
      ∃ st n, st.Storable ∧ r.status = .int st.code ∧ st.isCompleted = true ∧
        r.visibility = .visibleNotifyCompleted ∧ r.numFailed = .int (n : Nat) ∧
        (n : Int) ≤ Record.maxFailures ∧ c = r.record st n (s.headersOf r.id) := by
  obtain ⟨st, hst, hcode⟩ := h.status
  obtain ⟨n, hn⟩ := h.exists_numFailed hreal
  have hcompletion : (r.record st n (s.headersOf r.id)).hasCompletionNotification = true ↔
      st.isCompleted = true ∧ r.visibility = .visibleNotifyCompleted := by
    unfold Record.hasCompletionNotification
    rw [Bool.and_eq_true, beq_iff_eq]
    rfl
  unfold Snapshot.completion? view
  rw [Record.ofSnapshot_values (h.legible hn) hst hcode hn]
  constructor
  · intro hc
    split at hc
    · rename_i c' hc'
      split at hc' <;> cases hc'
      rename_i hle
      split at hc <;> cases hc
      rename_i hcomplete
      obtain ⟨hdone, hvisible⟩ := hcompletion.mp hcomplete
      exact ⟨st, n, hst, hcode, hdone, hvisible, hn, hle, rfl⟩
    · cases hc
  · rintro ⟨st', n', hst', hcode', hdone, hvisible, hn', hle, rfl⟩
    obtain rfl : st = st' := Status.eq_of_code hst hst' hcode hcode'
    obtain rfl : n = n' := Cell.eq_of_int hn hn'
    rw [if_pos hle]
    exact if_pos (hcompletion.mpr ⟨hdone, hvisible⟩)

/-- The notices of a listing are for different downloads. -/
theorem announceAll_ids_sublist (s : Store) (xs : List Snapshot) :
    ((s.announceAll xs).1.map (·.id)).Sublist
      (xs.filterMap fun x => x.completion?.map (·.id)) := by
  induction xs generalizing s with
  | nil => exact .slnil
  | cons x xs ih =>
    show (((s.announce x).1.toList ++ ((s.announce x).2.announceAll xs).1).map (·.id)).Sublist _
    rw [List.map_append]
    rcases hx : x.completion? with _ | r
    · rw [List.filterMap_cons_none (by rw [hx]; rfl), announce_of_none hx]
      exact ih s
    · rw [List.filterMap_cons_some (by rw [hx]; rfl), announce_of_some hx]
      split
      · exact (ih _).cons_cons r.id
      · exact (ih _).cons r.id

namespace Reachable

variable [Url.HostNames]

theorem ids_of_listing (h : s.Reachable) {xs : List Snapshot} (hxs : s.snapshots = .ok xs) :
    (xs.filterMap fun x => x.completion?.map (·.id)).Nodup := by
  obtain ⟨hreal, rfl⟩ := h.snapshots_eq_ok_iff.mp hxs
  have hids : ∀ r ∈ s.rows, ∀ id, ((s.view r).completion?.map (·.id)) = some id → id = r.id := by
    intro r hr id hid
    obtain ⟨c, hc, hcid⟩ := Option.map_eq_some_iff.mp hid
    obtain ⟨st, n, -, -, -, -, -, -, hcr⟩ :=
      (completion?_view (h.sound_of_mem hr) (hreal r hr)).mp hc
    rw [← hcid, hcr]
    rfl
  rw [List.filterMap_map, Function.comp_def]
  exact h.ordered.nodup.sublist (filterMap_sublist_map hids)

theorem nodup_announceAll (h : s.Reachable) {xs : List Snapshot} (hxs : s.snapshots = .ok xs) :
    ((s.announceAll xs).1.map (·.id)).Nodup :=
  (h.ids_of_listing hxs).sublist (announceAll_ids_sublist s xs)

/-- **Notices of a tick.** A tick that lists the store hands out one notice for each armed row whose
completion is to be announced. -/
theorem mem_announceAll (h : s.Reachable) {xs : List Snapshot} (hxs : s.snapshots = .ok xs)
    {n : Notice} :
    n ∈ (s.announceAll xs).1 ↔
      ∃ st r, s.find? n.id = some r ∧ r.completionNotified = .int 0 ∧ st.Storable ∧
        r.status = .int st.code ∧ st.isCompleted = true ∧ r.Announceable ∧
        n = ⟨n.id, st, r.title, r.target⟩ := by
  obtain ⟨hreal, rfl⟩ := h.snapshots_eq_ok_iff.mp hxs
  rw [announceAll_fst s (h.ids_of_listing hxs), List.mem_filterMap]
  constructor
  · rintro ⟨x, hx, hn⟩
    obtain ⟨r, hr, rfl⟩ := List.mem_map.mp hx
    obtain ⟨c, hc, harmed, rfl⟩ := announce_eq_some.mp hn
    obtain ⟨st, m, hst, hcode, hdone, hvisible, hm, hle, rfl⟩ :=
      (completion?_view (h.sound_of_mem hr) (hreal r hr)).mp hc
    have hfind : s.find? r.id = some r := h.ordered.find?_eq_some hr
    exact ⟨st, r, hfind, (armed_iff hfind).mp harmed, hst, hcode, hdone,
      ⟨hvisible, m, hm, hle⟩, rfl⟩
  · rintro ⟨st, r, hfind, hflag, hst, hcode, hdone, ⟨hvisible, m, hm, hle⟩, hn⟩
    have hr : r ∈ s.rows := mem_of_find? hfind
    have hid : r.id = n.id := id_of_find? hfind
    refine ⟨s.view r, List.mem_map_of_mem hr, announce_eq_some.mpr ⟨_,
      (completion?_view (h.sound_of_mem hr) (hreal r hr)).mpr
        ⟨st, m, hst, hcode, hdone, hvisible, hm, hle, rfl⟩, ?_, ?_⟩⟩
    · show s.Armed r.id
      rw [hid]
      exact ⟨r, hfind, hflag⟩
    · rw [hn, ← hid]
      rfl

end Reachable

end Store

end Downloads
