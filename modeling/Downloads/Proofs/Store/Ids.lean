import Downloads.Proofs.Store.Journal
import Downloads.Proofs.Store.Snapshots
import Mathlib.Algebra.Group.Nat.Defs

/-!
# Ids and headers over whole journals

The ids that insertions answer with ascend, and the store never forgets the last of them, deletions
or not. So an id that was deleted stays unused (`Store.Retired`), which is an invariant of journals
together with the order of the ids (`Journal.Numbered`). Headers stand or fall with their download
(`Journal.ids_and_headers`).
-/

namespace Downloads

namespace Store

variable {s s' : Store} {op : Operation} {id : Int}

/-- The id was used, and no download has it. -/
structure Retired (s : Store) (id : Int) : Prop where
  absent : s.find? id = none
  le_lastId : id ≤ s.lastId

theorem not_listed_of_none (h : s.find? id = none) {rows : List Row} (hrows : rows ⊆ s.rows)
    {xs : List Snapshot} (hxs : rows.mapM s.snapshotOf = .ok xs) : ∀ x ∈ xs, x.id? ≠ some id := by
  intro x hx hid
  have hmem : id ∈ xs.filterMap Snapshot.id? := List.mem_filterMap.mpr ⟨x, hx, hid⟩
  rw [ids_of_mapM hxs] at hmem
  obtain ⟨r, hr, hri⟩ := List.mem_map.mp hmem
  exact find?_eq_none_iff.mp h r (hrows hr) hri

variable [Url.HostNames]

/-- New ids exceed the last one, so a retired id is not used again. -/
theorem Retired.after (h : s.Retired id) (op : Operation) : (s.after op).Retired id := by
  have hlast : s.lastId ≤ (s.after op).lastId := lastId_le_after s op
  refine ⟨?_, by have := h.le_lastId; omega⟩
  rcases hr : (s.after op).find? id with _ | r
  · rfl
  · obtain ⟨d, now, -, hins, -⟩ := find?_after_of_none h.absent hr
    have hlt := (lt_of_nextId (insert_eq_ok hins).1).1
    have hle := h.le_lastId
    omega

theorem Reachable.retired_of_delete (h : s.Reachable) {o : Outcome}
    (hok : s.apply (.delete id) = .ok (o, s')) : s'.Retired id := by
  obtain ⟨r, hr⟩ := Operation.exists_find?_of_ok h hok rfl (by simp)
  have hle : id ≤ s.lastId := h.ordered.id_le_lastId hr
  have hlast := lastId_le_after s (.delete id)
  rw [after_of_ok hok] at hlast
  refine ⟨(h.frames hok).deleted id rfl, ?_⟩
  omega

/-- A call that adds no download gives no id away. -/
theorem lastId_apply {o : Outcome} (h : s.apply op = .ok (o, s')) (ho : ∀ id, o ≠ .inserted id) :
    s'.lastId = s.lastId := by
  have hacts := acts_after s op
  rw [after_of_ok h] at hacts
  cases hacts with
  | add hop =>
    subst hop
    obtain ⟨i, rfl, -⟩ := apply_insert_eq_ok h
    exact absurd rfl (ho i)
  | none | header | remove | rewrite => rfl

theorem Ordered.id_of_insert (hs : s.Ordered) {d : NewDownload} {now : Int}
    (h : s.insert d now = .ok (id, s')) : id = s.lastId + 1 ∧ s'.lastId = id := by
  obtain ⟨hnext, -, hlast, -⟩ := insert_eq_ok h
  rw [hs.nextId_eq] at hnext
  split at hnext <;> cases hnext
  exact ⟨rfl, hlast⟩

/-- The answers of a store that knows nothing of a download. -/
structure Forgets (s : Store) (id : Int) : Prop where
  snapshot : s.snapshot? id = .ok none
  headers : s.headersOf id = []
  listed : ∀ xs, s.snapshots = .ok xs → ∀ x ∈ xs, x.id? ≠ some id
  shown : ∀ xs, s.visibleSnapshots = .ok xs → ∀ x ∈ xs, x.id? ≠ some id
  claim : s.claimCompletionNotice id = (false, s)
  write : ∀ op, op.target? = some id → op ≠ .claimCompletionNotice id → ¬ op.Faulty →
    s.apply op = .error (.notFound id)

theorem Reachable.forgets (h : s.Reachable) (hid : s.find? id = none) : s.Forgets id where
  snapshot := by simp only [snapshot?, hid]
  headers := h.headersOf_of_none hid
  listed _ hxs := not_listed_of_none hid (List.Subset.refl _) hxs
  shown _ hxs := not_listed_of_none hid (List.filter_sublist.subset) hxs
  claim := by simp only [claimCompletionNotice, hid]
  write op ht hclaim hop := by
    have hanswers := Operation.answers_apply h op
    generalize s.apply op = answer at hanswers
    cases hanswers with
    | faulty hfaulty => exact absurd hfaulty hop
    | missing _ hmisses =>
      have hsame := hmisses.1
      rw [ht, Option.some.injEq] at hsame
      rw [hsame]
    | full _ hinsert =>
      rw [hinsert] at ht
      cases ht
    | done _ hfound => exact absurd ⟨ht, hid, hclaim⟩ (hfound id)

end Store

/-- The id of the download that the call added. -/
def Reply.inserted? : Reply → Option Int
  | ⟨_, .ok (.inserted id)⟩ => some id
  | _ => none

namespace Journal

/-- The ids that insertions answered with, oldest first. -/
def ids (j : Journal) : List Int := j.replies.filterMap Reply.inserted?

theorem ids_note_inserted (j : Journal) (s : Store) (op : Operation) (id : Int) :
    (j.note s ⟨op, .ok (.inserted id)⟩).ids = j.ids ++ [id] := filterMap_note Reply.inserted? j s _

theorem ids_note_of_none (j : Journal) (s : Store) {reply : Reply} (h : reply.inserted? = none) :
    (j.note s reply).ids = j.ids := by
  unfold ids
  rw [filterMap_note, h]
  exact List.append_nil _

/-- The ids ascend, the store knows the last of them, and deleted ones stay unused. -/
structure Numbered (j : Journal) : Prop where
  ascending : j.ids.Pairwise (· < ·)
  le_lastId : ∀ id ∈ j.ids, id ≤ j.store.lastId
  /-- There is an insertion for every id that was given away. -/
  lastId_le : j.store.lastId ≤ j.ids.length
  deleted : ∀ id, .delete id ∈ j.calls → j.store.Retired id

theorem numbered_empty : empty.Numbered where
  ascending := .nil
  le_lastId := nofun
  lastId_le := Int.le_refl 0
  deleted := nofun

namespace Numbered

variable {j : Journal} {op : Operation} {o : Outcome} {s : Store}

theorem failed (h : j.Numbered) (op : Operation) (e : StoreError) :
    (j.note j.store ⟨op, .error e⟩).Numbered := by
  have hids : (j.note j.store ⟨op, .error e⟩).ids = j.ids := j.ids_note_of_none j.store rfl
  have hcalls := j.calls_note_error j.store op e
  exact ⟨hids ▸ h.ascending, hids ▸ h.le_lastId, hids ▸ h.lastId_le, hcalls ▸ h.deleted⟩

variable [Url.HostNames]

theorem deleted_done (h : j.Numbered) (hj : j.store.Reachable)
    (hok : j.store.apply op = .ok (o, s)) :
    ∀ id, .delete id ∈ (j.note s ⟨op, .ok o⟩).calls → s.Retired id := by
  intro id hid
  rw [calls_note_ok] at hid
  rcases List.mem_append.mp hid with hold | hnew
  · rw [← Store.after_of_ok hok]
    exact (h.deleted id hold).after op
  · obtain rfl : Operation.delete id = op := List.mem_singleton.mp hnew
    exact hj.retired_of_delete hok

theorem done (h : j.Numbered) (hj : j.store.Reachable) (hok : j.store.apply op = .ok (o, s)) :
    (j.note s ⟨op, .ok o⟩).Numbered := by
  by_cases ho : ∃ id, o = .inserted id
  · obtain ⟨id, rfl⟩ := ho
    obtain ⟨d, now, -, hins⟩ := Store.apply_eq_inserted hok
    obtain ⟨hid, hlast⟩ := hj.ordered.id_of_insert hins
    have hids := j.ids_note_inserted s op id
    have hlt : ∀ i ∈ j.ids, i < id := by
      intro i hi
      have hle := h.le_lastId i hi
      omega
    constructor
    case deleted => exact h.deleted_done hj hok
    case ascending =>
      rw [hids, List.pairwise_append]
      refine ⟨h.ascending, List.pairwise_singleton _ _, ?_⟩
      intro i hi i' hi'
      rw [List.mem_singleton.mp hi']
      exact hlt i hi
    case le_lastId =>
      intro i hi
      show i ≤ s.lastId
      rw [hids] at hi
      rw [hlast]
      rcases List.mem_append.mp hi with hold | hnew
      · exact Int.le_of_lt (hlt i hold)
      · exact Int.le_of_eq (List.mem_singleton.mp hnew)
    case lastId_le =>
      have hle := h.lastId_le
      show s.lastId ≤ _
      rw [hids, List.length_append, List.length_singleton]
      omega
  · have ho : ∀ id, o ≠ .inserted id := fun id hid => ho ⟨id, hid⟩
    have hnone : Reply.inserted? ⟨op, .ok o⟩ = none := by
      cases o with
      | inserted id => exact absurd rfl (ho id)
      | done | redirects | claimed => rfl
    have hids := j.ids_note_of_none s hnone
    have hlast := Store.lastId_apply hok ho
    constructor
    case deleted => exact h.deleted_done hj hok
    case ascending => exact hids ▸ h.ascending
    case le_lastId =>
      show ∀ i ∈ _, i ≤ s.lastId
      rw [hids, hlast]
      exact h.le_lastId
    case lastId_le =>
      show s.lastId ≤ _
      rw [hids, hlast]
      exact h.lastId_le

end Numbered

section

variable [Url.HostNames]

theorem numbered (as : List Attempt) : (ofAttempts as).Numbered :=
  induction numbered_empty (fun _ _ _ _ hj h hok => h.done hj hok)
    (fun _ op e h => h.failed op e) as

/-- Right after an insertion, the new download has the headers that were asked for. -/
theorem snapshot?_of_getLast? (as : List Attempt) :
    ∀ d now id, (ofAttempts as).replies.getLast? = some ⟨.insert d now, .ok (.inserted id)⟩ →
      ∃ x, (ofAttempts as).store.snapshot? id = .ok (some x) ∧ x.headers = d.headers := by
  refine induction (P := fun j =>
    ∀ d now id, j.replies.getLast? = some ⟨.insert d now, .ok (.inserted id)⟩ →
      ∃ x, j.store.snapshot? id = .ok (some x) ∧ x.headers = d.headers) ?_ ?_ ?_ as
  · intro d now id h
    cases h
  · intro j op o s hj _ hok d now id h
    rw [note, List.getLast?_concat] at h
    cases h
    have hs : s.Reachable := Store.after_of_ok hok ▸ hj.after (.insert d now)
    obtain ⟨i, hi, -, hfind, hheaders⟩ := (hj.frames hok).inserted d now rfl
    cases hi
    have hzero : (d.row id now).numFailed ≠ .real := by
      show Cell.int 0 ≠ .real
      decide
    exact ⟨_, hs.snapshot?_of_find? hfind hzero, hheaders⟩
  · intro j op e _ d now id h
    rw [note, List.getLast?_concat] at h
    cases h

/-- As long as the insertions can be counted with 63 bits, the next one finds an id. -/
theorem ids_attempt_insert (as : List Attempt) (hcount : (ofAttempts as).ids.length + 1 < 2 ^ 63)
    {d : NewDownload} {now : Int} (hd : ¬ (Operation.insert d now).Faulty) :
    ∃ id, ((ofAttempts as).attempt ⟨.insert d now, []⟩).ids = (ofAttempts as).ids ++ [id] := by
  have hreach : (ofAttempts as).store.Reachable := reachable_ofAttempts as
  have hlast : (ofAttempts as).store.lastId < maxInt64 := by
    have hle := (numbered as).lastId_le
    unfold maxInt64
    omega
  have hanswers := Operation.answers_apply hreach (.insert d now)
  generalize hanswer : (ofAttempts as).store.apply (.insert d now) = answer at hanswers
  cases hanswers with
  | faulty hfaulty => exact absurd hfaulty hd
  | missing _ hmisses => cases hmisses.1
  | full _ _ hfull => omega
  | done _ _ o s =>
    obtain ⟨id, rfl, -⟩ := Store.apply_insert_eq_ok hanswer
    exact ⟨id, by rw [attempt_of_ok hreach.ordered hanswer, ids_note_inserted]⟩

/-- **Ids and headers.** Whatever calls are made and wherever the engine refuses statements of them,
each new id exceeds all that insertions answered with before. A deleted download is never heard of
again: its id finds nothing, is not listed, has no headers and nothing to announce, and every other
call on it fails because it does not exist. Every header points to a download that does, and a new
download has just the headers it was added with. Ids run out only after `2 ^ 63 - 1` insertions. -/
theorem ids_and_headers (as : List Attempt) :
    let j := ofAttempts as
    j.ids.Pairwise (· < ·) ∧
    (∀ id, .delete id ∈ j.calls → j.store.Forgets id) ∧
    (∀ h ∈ j.store.headers, ∃ r, j.store.find? h.download = some r) ∧
    (∀ d now id, j.replies.getLast? = some ⟨.insert d now, .ok (.inserted id)⟩ →
      ∃ x, j.store.snapshot? id = .ok (some x) ∧ x.headers = d.headers) ∧
    (j.ids.length + 1 < 2 ^ 63 → ∀ d now, ¬ (Operation.insert d now).Faulty →
      ∃ id, (j.attempt ⟨.insert d now, []⟩).ids = j.ids ++ [id]) := by
  intro j
  have hreach : j.store.Reachable := reachable_ofAttempts as
  have hnumbered : j.Numbered := numbered as
  refine ⟨hnumbered.ascending, ?_, ?_, snapshot?_of_getLast? as, ?_⟩
  · intro id hid
    exact hreach.forgets (hnumbered.deleted id hid).absent
  · intro h hh
    exact Option.isSome_iff_exists.mp (hreach.owned h hh)
  · intro hcount d now hd
    exact ids_attempt_insert as hcount hd

end

/-- Two downloads are added. A deletion of the newer one fails at its last statement and is made
again, and then another download is added. -/
def replacedAttempts : List Attempt :=
  [{ call := .insert { uri := "https://example.com/a" } 0 },
    { call := .insert Store.headedDownload 0 },
    { call := .delete 2, refusals := [none, none, none, some .locked] },
    { call := .delete 2 },
    { call := .insert { uri := "https://example.com/c", headers := [("Accept", "c")] } 0 }]

theorem ids_and_headers_replacedAttempts :
    (ofAttempts replacedAttempts).ids = [1, 2, 3] ∧
      (ofAttempts replacedAttempts).store.Forgets 2 ∧
      (∃ x, (ofAttempts replacedAttempts).store.snapshot? 3 = .ok (some x) ∧
        x.headers = [("Accept", "c")]) ∧
      ∃ id, 3 < id ∧
        ((ofAttempts replacedAttempts).attempt ⟨.insert Store.headedDownload 1, []⟩).ids =
          [1, 2, 3, id] := by
  have hids : (ofAttempts replacedAttempts).ids = [1, 2, 3] := by decide +kernel
  have hcalls : Operation.delete 2 ∈ (ofAttempts replacedAttempts).calls := by decide +kernel
  have hlast : (ofAttempts replacedAttempts).replies.getLast? = some ⟨.insert
      { uri := "https://example.com/c", headers := [("Accept", "c")] } 0, .ok (.inserted 3)⟩ := by
    decide +kernel
  have hfit : ¬ (Operation.insert Store.headedDownload 1).Faulty := by
    rintro ⟨e, he⟩
    have hok : (Url.parse Store.headedDownload.uri).isOk = true := by decide +kernel
    rw [he] at hok
    cases hok
  obtain ⟨-, hforgets, -, hheaders, hnext⟩ := ids_and_headers replacedAttempts
  obtain ⟨id, hid⟩ := hnext (by rw [hids]; decide) Store.headedDownload 1 hfit
  obtain ⟨hascending, -⟩ :=
    ids_and_headers (replacedAttempts ++ [⟨.insert Store.headedDownload 1, []⟩])
  rw [ofAttempts_concat, hid, hids, List.pairwise_append] at hascending
  refine ⟨hids, hforgets 2 hcalls, hheaders _ _ _ hlast, id, ?_, by rw [hid, hids]; rfl⟩
  exact hascending.2.2 3 (by simp) id (by simp)

end Journal

end Downloads
