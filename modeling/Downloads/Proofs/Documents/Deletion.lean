import Downloads.Proofs.Documents.Navigation
import Downloads.Proofs.Store.Frame

/-!
# Deletions

A deletion that succeeds takes one download out of the store, with its headers, and leaves all the
others alone (`Store.Removes`). The tree shows nothing else of it: the listing after the deletion is
the one before it without one node (`DocumentTree.query_of_delete`).
-/

namespace Downloads

namespace Store

/-- The second store is the first one without one of its downloads, and nothing else is changed. -/
structure Removes (s : Store) (id : Int) (s' : Store) : Prop where
  present : ∃ r, s.find? id = some r
  absent : s'.find? id = none
  headers : s'.headersOf id = []
  others : ∀ i, i ≠ id → s'.find? i = s.find? i ∧ s'.headersOf i = s.headersOf i
  lastId : s'.lastId = s.lastId

variable [Url.HostNames] {s s' : Store} {id : Int}

theorem apply_delete (h : s.delete id = .ok s') : s.apply (.delete id) = .ok (.done, s') := by
  rw [apply, h]
  rfl

theorem Reachable.removes_of_delete (h : s.Reachable) (hdelete : s.delete id = .ok s') :
    s.Removes id s' := by
  have hframes := h.frames (apply_delete hdelete)
  have heq := delete_eq_ok hdelete
  constructor
  case present =>
    rcases hr : s.find? id with _ | r
    · simp [delete, hr] at hdelete
    · exact ⟨r, rfl⟩
  case absent => exact hframes.deleted id rfl
  case headers => exact hframes.headers id rfl
  case others =>
    intro i hi
    exact hframes.others i (fun ht => hi (Option.some.inj ht).symm) (by simp)
  case lastId => rw [heq]

theorem Reachable.delete (h : s.Reachable) (hdelete : s.delete id = .ok s') : s'.Reachable :=
  after_of_ok (apply_delete hdelete) ▸ h.after (.delete id)

end Store

namespace DocumentTree

variable [Url.HostNames] {s s' : Store} {id : Int}

/-- A deletion takes the node of its download out of the listing. -/
theorem shownNodes_delete (t : DocumentTree) (h : s.Reachable) (hdelete : s.delete id = .ok s') :
    t.shownNodes s' = (t.shownNodes s).filter fun p => p.1 != id := by
  have hview : ∀ r : Row, r.id ≠ id → s'.view r = s.view r := by
    intro r hr
    rw [Store.view, Store.view, ((h.removes_of_delete hdelete).others r.id hr).2]
  have hrows : s'.rows = s.rows.filter fun r => r.id != id := by rw [Store.delete_eq_ok hdelete]
  rw [shownNodes, shownNodes, hrows, List.filter_filterMap, List.filter_comm, List.filterMap_filter]
  refine List.filterMap_congr fun r _ => ?_
  by_cases hr : r.id = id
  · rw [if_neg (by simpa using hr)]
    cases t.nodeOf? (s.view r) <;> simp [Option.filter, hr]
  · rw [if_pos (by simpa using hr), hview r hr]
    cases t.nodeOf? (s.view r) <;> simp [Option.filter, hr]

/-- After a deletion, the listing is the one before it without the node of the download. -/
theorem query_of_delete {t : DocumentTree} (h : s.Reachable) (hdelete : s.delete id = .ok s')
    {words : RandomWords} {ns : List DocumentNode}
    (hns : (t.query s "roots/downloads" words).1 = .ok (ns.map .document)) (words' : RandomWords) :
    (t.query s' "roots/downloads" words').1 =
      .ok ((ns.filter fun n => n.documentId != DocumentId.ofRecordId id).map .document) := by
  obtain ⟨xs, hxs⟩ : ∃ xs, s.visibleSnapshots = .ok xs := by
    rcases hv : s.visibleSnapshots with e | xs
    · have herror : RecordStore.visibleSnapshots s = .error e := hv
      simp only [fst_query_root, listing, herror] at hns
      cases hns
    · exact ⟨xs, rfl⟩
  have hreach : s'.Reachable := h.delete hdelete
  obtain ⟨hreal, -⟩ := h.visibleSnapshots_eq_ok_iff.mp hxs
  have hxs' : s'.visibleSnapshots = .ok ((s'.rows.filter Row.isShown).map s'.view) := by
    refine hreach.visibleSnapshots_eq_ok_iff.mpr ⟨fun r hr => hreal r ?_, rfl⟩
    rw [Store.delete_eq_ok hdelete, List.filter_comm] at hr
    exact List.mem_of_mem_filter hr
  rw [fst_query_shownNodes h hxs, Except.ok.injEq,
    (List.map_injective_iff.mpr fun _ _ => QueryRow.document.inj).eq_iff] at hns
  rw [fst_query_shownNodes hreach hxs', shownNodes_delete t h hdelete, ← hns, List.filter_map]
  congr 3
  refine List.filter_congr fun p hp => ?_
  have hdocument := documentId_of_mem_shownNodes (t := t) h hreal p hp
  rw [Function.comp_apply, hdocument, Bool.eq_iff_iff, bne_iff_ne, bne_iff_ne,
    DocumentId.ofRecordId_injective.ne_iff]

end DocumentTree

end Downloads
