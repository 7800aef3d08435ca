import Downloads.Proofs.Store.Snapshots

/-!
# Listings

A listing asks for the rows and then for the headers of all downloads at once. It groups the headers
by download, and each row takes the group of its id with it (`Store.listing`). As no two rows have
one id, a row finds the headers that a question about it alone would find, and the listing is made
of the answers to such questions (`Store.Reachable.listings_agree`).
-/

namespace Downloads

/-- Headers by download, those of a download in the order in which they were added. -/
abbrev HeaderGroups := Std.HashMap Int (List (String × String))

namespace HeaderGroups

/-- The groups with one more header, which goes to the end of its group. -/
def add (groups : HeaderGroups) (h : HeaderRow) : HeaderGroups :=
  groups.insert h.download (groups.getD h.download [] ++ [(h.name, h.value)])

def ofRows (hs : List HeaderRow) : HeaderGroups := hs.foldl add ∅

theorem getD_add (groups : HeaderGroups) (h : HeaderRow) (id : Int) :
    (groups.add h).getD id [] =
      groups.getD id [] ++ if h.download = id then [(h.name, h.value)] else [] := by
  unfold add
  rw [Std.HashMap.getD_insert]
  by_cases hid : h.download = id <;> simp [hid]

/-- The group of a download is what a question about its headers alone finds. -/
theorem getD_ofRows (hs : List HeaderRow) (id : Int) :
    (ofRows hs).getD id [] =
      (hs.filter fun h => h.download == id).map fun h => (h.name, h.value) := by
  induction hs using List.reverseRecOn with
  | nil => exact Std.HashMap.getD_empty
  | append_singleton hs h ih =>
    have hadd : ofRows (hs ++ [h]) = (ofRows hs).add h := by
      simp only [ofRows, List.foldl_append, List.foldl_cons, List.foldl_nil]
    rw [hadd, getD_add, ih, List.filter_append, List.map_append]
    by_cases hid : h.download = id <;> simp [hid]

end HeaderGroups

/-- The download is shown in listings of documents. -/
def Row.isShown (r : Row) : Bool := r.visibleInUi != .int 0

/-- The column that says whether the download is shown does not hold zero. -/
def Snapshot.isShown (x : Snapshot) : Bool :=
  x.row.find? Column.visibleInUi.name != some (.integer 0)

namespace Store

variable {s : Store}

/-- Reads rows one after the other. Each takes the group of its id out of the groups. -/
def readRows (groups : HeaderGroups) : List Row → Except StoreError (List Snapshot)
  | [] => .ok []
  | r :: rows =>
    match r.fields with
    | .error e => .error (.database e)
    | .ok row => (readRows (groups.erase r.id) rows).map (⟨row, groups.getD r.id []⟩ :: ·)

/-- The snapshots of the rows that pass a test, of which the headers are asked for all at once. -/
def listing (s : Store) (p : Row → Bool) : Except StoreError (List Snapshot) :=
  readRows (.ofRows s.headers) (s.rows.filter p)

/-! ## Rows and their groups -/

theorem snapshotOf_of_error {r : Row} {e : DatabaseError} (h : r.fields = .error e) :
    s.snapshotOf r = .error (.database e) := by
  simp only [snapshotOf, h]

theorem snapshotOf_of_ok {r : Row} {row : Fields} (h : r.fields = .ok row) :
    s.snapshotOf r = .ok ⟨row, s.headersOf r.id⟩ := by
  simp only [snapshotOf, h]

/-- Rows with different ids do not take each other's headers. -/
theorem readRows_eq {rows : List Row} {groups : HeaderGroups} (hids : (rows.map (·.id)).Nodup)
    (hgroups : ∀ r ∈ rows, groups.getD r.id [] = s.headersOf r.id) :
    readRows groups rows = rows.mapM s.snapshotOf := by
  induction rows generalizing groups with
  | nil => rfl
  | cons r rows ih =>
    rw [List.map_cons, List.nodup_cons] at hids
    have hrest : ∀ x ∈ rows, (groups.erase r.id).getD x.id [] = s.headersOf x.id := by
      intro x hx
      have hne : r.id ≠ x.id := fun h => hids.1 (h ▸ List.mem_map_of_mem hx)
      rw [Std.HashMap.getD_erase, if_neg (by simpa using hne)]
      exact hgroups x (List.mem_cons_of_mem r hx)
    rw [List.mapM_cons]
    rcases hr : r.fields with e | row
    · rw [snapshotOf_of_error hr]
      simp only [readRows, hr]
      rfl
    · rw [snapshotOf_of_ok hr]
      simp only [readRows, hr, hgroups r List.mem_cons_self, ih hids.2 hrest]
      cases rows.mapM s.snapshotOf <;> rfl

theorem Ordered.nodup_ids (h : s.Ordered) (p : Row → Bool) :
    ((s.rows.filter p).map (·.id)).Nodup :=
  h.nodup.sublist (List.filter_sublist.map _)

theorem Ordered.listing_eq (h : s.Ordered) (p : Row → Bool) :
    s.listing p = (s.rows.filter p).mapM s.snapshotOf :=
  readRows_eq (h.nodup_ids p) fun r _ => HeaderGroups.getD_ofRows s.headers r.id

/-! ## Listings and single snapshots -/

theorem Ordered.snapshot?_of_mem (h : s.Ordered) {r : Row} (hr : r ∈ s.rows) :
    s.snapshot? r.id = (s.snapshotOf r).map some := by
  simp only [snapshot?, h.find?_eq_some hr]

theorem mapM_snapshot? {rows : List Row} (h : s.Ordered) (hrows : ∀ r ∈ rows, r ∈ s.rows) :
    (rows.map (·.id)).mapM s.snapshot? = (rows.mapM s.snapshotOf).map (List.map some) := by
  induction rows with
  | nil => rfl
  | cons r rows ih =>
    have hrest := ih fun x hx => hrows x (List.mem_cons_of_mem r hx)
    rw [List.map_cons, List.mapM_cons, List.mapM_cons,
      h.snapshot?_of_mem (hrows r List.mem_cons_self), hrest]
    rcases s.snapshotOf r with e | x
    · rfl
    · cases rows.mapM s.snapshotOf <;> rfl

theorem snapshot?_ne_none_iff {id : Int} :
    s.snapshot? id ≠ .ok none ↔ ∃ r, s.find? id = some r := by
  rcases hr : s.find? id with _ | r
  · simp [snapshot?, hr]
  · rcases hx : s.snapshotOf r with e | x <;> simp [snapshot?, hr, hx, Except.map]

theorem Ordered.mem_ids_iff (h : s.Ordered) (p : Row → Bool) (id : Int) :
    id ∈ (s.rows.filter p).map (·.id) ↔ ∃ r, s.find? id = some r ∧ p r = true := by
  constructor
  · intro hid
    obtain ⟨r, hr, rfl⟩ := List.mem_map.mp hid
    obtain ⟨hmem, hp⟩ := List.mem_filter.mp hr
    exact ⟨r, h.find?_eq_some hmem, hp⟩
  · rintro ⟨r, hr, hp⟩
    exact List.mem_map.mpr ⟨r, List.mem_filter.mpr ⟨mem_of_find? hr, hp⟩, id_of_find? hr⟩

/-- A snapshot says of its row whether it is shown. -/
theorem isShown_of_snapshotOf {r : Row} {x : Snapshot} (h : s.snapshotOf r = .ok x) :
    x.isShown = r.isShown := by
  unfold snapshotOf at h
  split at h <;> cases h
  rename_i f hf
  obtain ⟨v, hv, hfind⟩ := r.find?_of_fields hf .visibleInUi
  have hread : r.visibleInUi.read Column.visibleInUi.index = .ok v := hv
  unfold Snapshot.isShown Row.isShown
  rw [hfind]
  rcases hcell : r.visibleInUi with n | t | _ <;> rw [hcell] at hread <;> cases hread
  rw [Bool.eq_iff_iff, bne_iff_ne, bne_iff_ne]
  simp

theorem visibleSnapshots_of_snapshots {xs : List Snapshot} (h : s.snapshots = .ok xs) :
    s.visibleSnapshots = .ok (xs.filter Snapshot.isShown) := by
  have hrows := forall₂_of_mapM h
  clear h
  show (s.rows.filter Row.isShown).mapM s.snapshotOf = _
  rw [mapM_eq_ok_iff]
  generalize s.rows = rows at hrows ⊢
  induction hrows with
  | nil => rfl
  | @cons r x rows xs hr _ ih =>
    rw [List.filter_cons, List.filter_cons, isShown_of_snapshotOf hr]
    split
    · rw [List.map_cons, List.map_cons, hr, ih]
    · exact ih

/-- The downloads that are shown can be listed if and only if all their counts of failures are
integers. -/
theorem Reachable.visibleSnapshots_eq_ok_iff [Url.HostNames] (h : s.Reachable)
    {xs : List Snapshot} :
    s.visibleSnapshots = .ok xs ↔ (∀ r ∈ s.rows.filter Row.isShown, r.numFailed ≠ .real) ∧
      xs = (s.rows.filter Row.isShown).map s.view :=
  h.mapM_snapshotOf_eq_ok_iff fun _ => List.mem_of_mem_filter

/-- **Listings and single snapshots.** In a store that came about by calls, the two listings answer
what questions about the single downloads answer, for each download once and by ascending id: about
all downloads that are there, or about those whose column says that they are shown. If a question
cannot be answered, the listing fails as the first such question does. -/
theorem Reachable.listings_agree [Url.HostNames] (h : s.Reachable) :
    ∃ ids shown : List Int,
      ids.Pairwise (· < ·) ∧ (∀ id, id ∈ ids ↔ s.snapshot? id ≠ .ok none) ∧
      (s.listing fun _ => true) = s.snapshots ∧
      s.snapshots.map (List.map some) = ids.mapM s.snapshot? ∧
      shown.Sublist ids ∧
      (∀ id, id ∈ shown ↔ ∃ r, s.find? id = some r ∧ r.visibleInUi ≠ .int 0) ∧
      s.listing Row.isShown = s.visibleSnapshots ∧
      s.visibleSnapshots.map (List.map some) = shown.mapM s.snapshot? ∧
      ∀ xs, s.snapshots = .ok xs → s.visibleSnapshots = .ok (xs.filter Snapshot.isShown) := by
  have hs : s.Ordered := h.ordered
  have hall : s.rows.filter (fun _ => true) = s.rows := List.filter_true s.rows
  have hids : s.snapshots.map (List.map some) = (s.rows.map (·.id)).mapM s.snapshot? :=
    (mapM_snapshot? hs fun _ hr => hr).symm
  have hshown : s.visibleSnapshots.map (List.map some) =
      ((s.rows.filter Row.isShown).map (·.id)).mapM s.snapshot? :=
    (mapM_snapshot? hs fun _ => List.mem_of_mem_filter).symm
  refine ⟨s.rows.map (·.id), (s.rows.filter Row.isShown).map (·.id), hs.ascending, ?_, ?_, hids,
    List.filter_sublist.map _, ?_, hs.listing_eq Row.isShown, hshown,
    fun xs => visibleSnapshots_of_snapshots⟩
  · intro id
    have hid := hs.mem_ids_iff (fun _ => true) id
    rw [hall] at hid
    rw [hid, snapshot?_ne_none_iff]
    simp
  · rw [hs.listing_eq, hall]
    rfl
  · intro id
    rw [hs.mem_ids_iff]
    simp [Row.isShown]

/-- Three downloads, of which the second is hidden, with headers that were added in turns. -/
def interleavedStore : Store :=
  empty.run [.insert { uri := "https://example.com/a" } 0,
    .insert { uri := "https://example.com/b", visibleInUi := false,
              headers := [("Accept", "b")] } 0,
    .insert { uri := "https://example.com/c" } 0,
    .addHeader 3 "X-Part" "1", .addHeader 1 "X-Part" "2", .addHeader 3 "X-Part" "3"]

theorem listings_agree_interleavedStore :
    interleavedStore.Reachable ∧
      (∃ xs, (interleavedStore.listing fun _ => true) = .ok xs ∧
        xs.map (·.headers) =
          [[("X-Part", "2")], [("Accept", "b")], [("X-Part", "1"), ("X-Part", "3")]] ∧
        interleavedStore.listing Row.isShown = .ok (xs.filter Snapshot.isShown)) ∧
      ∃ ids shown : List Int, shown.Sublist ids ∧ 2 ∈ ids ∧ 2 ∉ shown ∧
        interleavedStore.snapshots.map (List.map some) = ids.mapM interleavedStore.snapshot? := by
  have hreach : interleavedStore.Reachable := ⟨_, rfl⟩
  obtain ⟨ids, shown, -, hids, hall, hagree, hsub, hshown, hvisible, -, hfilter⟩ :=
    hreach.listings_agree
  have hlisted : interleavedStore.snapshots =
      .ok (interleavedStore.rows.map interleavedStore.view) := by decide +kernel
  have hhidden : (interleavedStore.find? 2).map (·.visibleInUi) = some (.int 0) := by
    decide +kernel
  obtain ⟨r, hr, hzero⟩ := Option.map_eq_some_iff.mp hhidden
  refine ⟨hreach, ⟨_, hall.trans hlisted, by decide +kernel, hvisible.trans (hfilter _ hlisted)⟩,
    ids, shown, hsub, ?_, ?_, hagree⟩
  · rw [hids, snapshot?_ne_none_iff]
    exact ⟨r, hr⟩
  · rw [hshown]
    rintro ⟨r', hr', hne⟩
    rw [hr, Option.some.injEq] at hr'
    exact hne (hr' ▸ hzero)

end Store

end Downloads
