import Downloads.Proofs.Record.Reading

/-!
# Snapshots of stored rows

A row that came about by calls can be read unless its count of failures left the 64 bits, and what
is read of it is a record if the count has 32 bits. A listing holds the snapshots of its rows, so it
has their ids, and an id finds in it what the store finds (`Store.snapshot?_of_snapshots`).
-/

namespace Downloads

theorem mapM_eq_ok_iff {α β ε : Type} {f : α → Except ε β} {xs : List α} {ys : List β} :
    xs.mapM f = .ok ys ↔ xs.map f = ys.map .ok := by
  induction xs generalizing ys with
  | nil => cases ys <;> simp [pure, Except.pure]
  | cons x xs ih =>
    rw [List.mapM_cons, List.map_cons]
    rcases hx : f x with e | y
    · cases ys <;> simp [bind, Except.bind]
    rcases hxs : xs.mapM f with e | ys'
    · have hne : ∀ ys : List β, xs.map f ≠ ys.map .ok := by
        intro ys h
        rw [ih.mpr h] at hxs
        cases hxs
      cases ys <;> simp [bind, Except.bind, hne]
    · cases ys <;> simp [bind, Except.bind, pure, Except.pure, ih.mp hxs,
        (List.map_injective_iff.mpr fun _ _ => Except.ok.inj).eq_iff]

/-- If all failures are the same and there is one, it is that of the whole list. -/
theorem mapM_eq_error {α β ε : Type} {f : α → Except ε β} {xs : List α} {e : ε}
    (hsame : ∀ x ∈ xs, ∀ e', f x = .error e' → e' = e) (h : ∃ x ∈ xs, f x = .error e) :
    xs.mapM f = .error e := by
  induction xs with
  | nil =>
    obtain ⟨x, hx, -⟩ := h
    cases hx
  | cons x xs ih =>
    rw [List.mapM_cons]
    rcases hx : f x with e' | y
    · rw [hsame x List.mem_cons_self e' hx]
      rfl
    · have hrest : ∃ x ∈ xs, f x = .error e := by
        obtain ⟨z, hz, he⟩ := h
        obtain rfl | hz := List.mem_cons.mp hz
        · rw [hx] at he
          cases he
        · exact ⟨z, hz, he⟩
      rw [ih (fun z hz => hsame z (List.mem_cons_of_mem x hz)) hrest]
      rfl

/-- The columns of a row that can be read hold what is read of them. -/
theorem Row.find?_of_fields {r : Row} {f : Fields} (h : r.fields = .ok f) (c : Column) :
    ∃ v, r.read c = .ok v ∧ f.find? c.name = some v := by
  have hread : ∀ c, ∃ v, r.read c = .ok v := by
    intro c
    unfold Row.fields at h
    rcases hpairs : Column.all.mapM (fun c => do return (c.name, ← r.read c)) with e | pairs <;>
      rw [hpairs] at h <;> cases h
    have hmem := List.mem_map_of_mem (f := fun c => do return (c.name, ← r.read c)) c.mem_all
    rw [mapM_eq_ok_iff.mp hpairs] at hmem
    obtain ⟨p, -, hp⟩ := List.mem_map.mp hmem
    rcases hc : r.read c with e | v
    · rw [hc] at hp
      cases hp
    · exact ⟨v, rfl⟩
  choose v hv using hread
  rw [Row.fields_of_read hv] at h
  obtain rfl := Except.ok.inj h
  exact ⟨v c, hv c, (Row.find?_foldl_insert v Column.all .empty c).trans (if_pos c.mem_all)⟩

namespace Row

variable {r : Row}

/-- The count of failures has 32 bits, so the row is a record. -/
def Builds (r : Row) : Prop := ∃ n : Nat, r.numFailed = .int n ∧ (n : Int) ≤ Record.maxFailures

theorem Sound.exists_numFailed (h : r.Sound) (hn : r.numFailed ≠ .real) :
    ∃ n : Nat, r.numFailed = .int n := by
  obtain ⟨n, hcount⟩ := h.numFailed
  unfold Cell.count at hcount
  split at hcount
  · exact ⟨n, hcount⟩
  · exact absurd hcount hn

end Row

namespace Store

variable {s : Store} {r : Row}

/-! ## Single snapshots -/

theorem id?_of_snapshotOf {x : Snapshot} (h : s.snapshotOf r = .ok x) :
    x.id? = some r.id := by
  unfold snapshotOf at h
  split at h <;> cases h
  rename_i f hf
  obtain ⟨v, hv, hfind⟩ := r.find?_of_fields hf .id
  cases hv
  simp only [Snapshot.id?, Fields.integer, hfind]

/-- The snapshot of a row that can be read. -/
def view (s : Store) (r : Row) : Snapshot := ⟨r.values, s.headersOf r.id⟩

theorem snapshotOf_of_sound (h : r.Sound) {x : Snapshot} :
    s.snapshotOf r = .ok x ↔ r.numFailed ≠ .real ∧ x = s.view r := by
  unfold snapshotOf view
  by_cases hn : r.numFailed = .real
  · rw [h.fields_of_real hn]
    simp [hn]
  · obtain ⟨n, hint⟩ := h.exists_numFailed hn
    rw [(h.legible hint).fields]
    simp [hn, eq_comm]

/-- A row cannot be read if its count of failures is no integer. -/
theorem snapshotOf_of_real (h : r.Sound) (hreal : r.numFailed = .real) :
    s.snapshotOf r = .error (.database (.notAnInteger Column.numFailed.index true .real)) := by
  simp only [snapshotOf, h.fields_of_real hreal]
  rfl

/-- The snapshot of a download is a record. -/
def Builds (s : Store) (id : Int) : Prop :=
  ∃ x c, s.snapshot? id = .ok (some x) ∧ Record.ofSnapshot x = .ok c

/-- The record is what is read of a download. It has no jitter. -/
def Reads (s : Store) (id : Int) (c : Record) : Prop :=
  ∃ x, s.snapshot? id = .ok (some x) ∧ Record.ofSnapshot x = .ok c

theorem builds_iff_exists_reads {id : Int} : s.Builds id ↔ ∃ c, s.Reads id c := exists_comm

theorem Reads.exists_snapshotOf {id : Int} {c : Record} (hc : s.Reads id c) :
    ∃ r x, s.find? id = some r ∧ s.snapshotOf r = .ok x ∧ Record.ofSnapshot x = .ok c := by
  obtain ⟨x, hx, hrecord⟩ := hc
  rcases hr : s.find? id with _ | r <;> simp only [snapshot?, hr] at hx
  · cases hx
  rcases hview : s.snapshotOf r with e | x' <;> rw [hview] at hx <;> cases hx
  exact ⟨r, x, rfl, hview, hrecord⟩

/-- The id of a record is the one under which it is read. -/
theorem Reads.id_eq {id : Int} {c : Record} (hc : s.Reads id c) : c.id = id := by
  obtain ⟨r, x, hr, hview, hrecord⟩ := hc.exists_snapshotOf
  have hid := id?_of_snapshotOf hview
  rw [Snapshot.id?_of_record hrecord, Option.some.injEq] at hid
  rw [hid, id_of_find? hr]

namespace Reachable

variable [Url.HostNames] {id : Int} {c : Record}

theorem snapshot?_of_find? (h : s.Reachable) (hr : s.find? id = some r)
    (hreal : r.numFailed ≠ .real) : s.snapshot? id = .ok (some (s.view r)) := by
  simp only [snapshot?, hr, (snapshotOf_of_sound (h.sound hr)).mpr ⟨hreal, rfl⟩]
  rfl

/-- A record is read only of a row that can be read. -/
theorem exists_row_of_reads (h : s.Reachable) (hc : s.Reads id c) :
    ∃ r, s.find? id = some r ∧ r.numFailed ≠ .real := by
  obtain ⟨r, x, hr, hview, -⟩ := hc.exists_snapshotOf
  exact ⟨r, hr, ((snapshotOf_of_sound (h.sound hr)).mp hview).1⟩

theorem numFailed_ne_real (h : s.Reachable) (hr : s.find? id = some r) (hc : s.Reads id c) :
    r.numFailed ≠ .real := by
  obtain ⟨r', hr', hreal⟩ := h.exists_row_of_reads hc
  rwa [Option.some.inj (hr.symm.trans hr')]

/-- What is read of a row is its record, if its count of failures has 32 bits. -/
theorem reads_iff (h : s.Reachable) (hr : s.find? id = some r) (hreal : r.numFailed ≠ .real) :
    s.Reads id c ↔
      ∃ (st : Status) (n : Nat), st.Storable ∧ r.status = .int st.code ∧ r.numFailed = .int n ∧
        (n : Int) ≤ Record.maxFailures ∧ c = r.record st n (s.headersOf r.id) := by
  have hsound : r.Sound := h.sound hr
  obtain ⟨n, hn⟩ := hsound.exists_numFailed hreal
  obtain ⟨st, hst, hcode⟩ := hsound.status
  have hview : s.snapshot? id = .ok (some (s.view r)) := h.snapshot?_of_find? hr hreal
  have hrecord := Record.ofSnapshot_values (hsound.legible hn) hst hcode hn (s.headersOf r.id)
  constructor
  · rintro ⟨x, hx, hc⟩
    rw [hview, Except.ok.injEq, Option.some.injEq] at hx
    rw [← hx, view, hrecord] at hc
    split at hc <;> cases hc
    rename_i hle
    exact ⟨st, n, hst, hcode, hn, hle, rfl⟩
  · rintro ⟨st', n', hst', hcode', hn', hle, rfl⟩
    obtain rfl : st = st' := Status.eq_of_code hst hst' hcode hcode'
    obtain rfl : n = n' := Cell.eq_of_int hn hn'
    exact ⟨s.view r, hview, hrecord.trans (if_pos hle)⟩

theorem builds_iff (h : s.Reachable) (hr : s.find? id = some r) (hreal : r.numFailed ≠ .real) :
    s.Builds id ↔ r.Builds := by
  rw [builds_iff_exists_reads]
  constructor
  · rintro ⟨c, hc⟩
    obtain ⟨-, n, -, -, hn, hle, -⟩ := (h.reads_iff hr hreal).mp hc
    exact ⟨n, hn, hle⟩
  · rintro ⟨n, hn, hle⟩
    obtain ⟨st, hst, hcode⟩ := (h.sound hr).status
    exact ⟨_, (h.reads_iff hr hreal).mpr ⟨st, n, hst, hcode, hn, hle, rfl⟩⟩

/-- A call that only changes the row of a download changes what is read of it accordingly. -/
theorem reads_of_updateRow (h : s.Reachable) (hc : s.Reads id c) (op : Operation)
    {change : Row → Row} (hop : s.apply op = (s.updateRow id change).map fun s => (.done, s))
    (hid : ∀ r, (change r).id = r.id) {c' : Record}
    (hrecord : ∀ r (st : Status) (n : Nat), st.Storable → r.status = .int st.code →
      r.numFailed = .int n → (n : Int) ≤ Record.maxFailures →
      c = r.record st n (s.headersOf r.id) →
      ∃ (st' : Status) (n' : Nat), st'.Storable ∧ (change r).status = .int st'.code ∧
        (change r).numFailed = .int n' ∧ (n' : Int) ≤ Record.maxFailures ∧
        c' = (change r).record st' n' (s.headersOf r.id)) :
    ∃ s', s.updateRow id change = .ok s' ∧ s'.Reachable ∧ s'.Reads id c' := by
  obtain ⟨r, hr, hreal⟩ := h.exists_row_of_reads hc
  obtain ⟨st, n, hst, hcode, hn, hle, hrow⟩ := (h.reads_iff hr hreal).mp hc
  obtain ⟨st', n', hst', hcode', hn', hle', hrow'⟩ := hrecord r st n hst hcode hn hle hrow
  have hok := updateRow_of_some hr change
  have hafter : s.after op = s.rewrite id change := after_of_ok (by rw [hop, hok]; rfl)
  have hreach : (s.rewrite id change).Reachable := hafter ▸ h.after op
  have hfind : (s.rewrite id change).find? id = some (change r) := by
    rw [find?_rewrite hid, hr]
    simp
  have hreal' : (change r).numFailed ≠ .real := by simp [hn']
  have hheaders : (s.rewrite id change).headersOf (change r).id = s.headersOf r.id := by
    rw [hid]
    rfl
  refine ⟨s.rewrite id change, hok, hreach, (hreach.reads_iff hfind hreal').mpr ?_⟩
  exact ⟨st', n', hst', hcode', hn', hle', by rw [hheaders, hrow']⟩

end Reachable

/-! ## Listings -/

/-- What is read of rows, each beside its row. -/
theorem forall₂_of_mapM {rows : List Row} {xs : List Snapshot}
    (h : rows.mapM s.snapshotOf = .ok xs) :
    List.Forall₂ (fun r x => s.snapshotOf r = .ok x) rows xs := by
  have heq := mapM_eq_ok_iff.mp h
  rwa [← List.forall₂_eq_eq_eq, List.forall₂_map_left_iff, List.forall₂_map_right_iff] at heq

theorem ids_of_mapM {rows : List Row} {xs : List Snapshot} (h : rows.mapM s.snapshotOf = .ok xs) :
    xs.filterMap Snapshot.id? = rows.map (·.id) := by
  have hrows := forall₂_of_mapM h
  clear h
  induction hrows with
  | nil => rfl
  | cons hr _ ih => rw [List.filterMap_cons_some (id?_of_snapshotOf hr), ih, List.map_cons]

/-- A listing has the ids of the store, whatever other programs wrote into the rows. -/
theorem ids_of_snapshots {xs : List Snapshot} (h : s.snapshots = .ok xs) :
    xs.filterMap Snapshot.id? = s.rows.map (·.id) := ids_of_mapM h

/-- A store finds a download where it lists it. -/
theorem snapshot?_of_snapshots {xs : List Snapshot} (h : s.snapshots = .ok xs) (id : Int) :
    s.snapshot? id = .ok (xs.find? fun x => x.id? == some id) := by
  have hrows := forall₂_of_mapM h
  clear h
  unfold snapshot? find?
  generalize s.rows = rows at hrows
  induction hrows with
  | nil => rfl
  | @cons r x rows xs hr _ ih =>
    have hid := id?_of_snapshotOf hr
    by_cases hi : r.id = id
    · rw [List.find?_cons_of_pos (by simpa using hi), List.find?_cons_of_pos (by simp [hid, hi])]
      simp only [hr]
      rfl
    · rw [List.find?_cons_of_neg (by simpa using hi), List.find?_cons_of_neg (by simp [hid, hi])]
      exact ih

variable [Url.HostNames]

/-- Rows can be listed if and only if all their counts of failures are integers. -/
theorem Reachable.mapM_snapshotOf_eq_ok_iff (h : s.Reachable) {rows : List Row}
    (hrows : ∀ r ∈ rows, r ∈ s.rows) {xs : List Snapshot} :
    rows.mapM s.snapshotOf = .ok xs ↔ (∀ r ∈ rows, r.numFailed ≠ .real) ∧ xs = rows.map s.view := by
  have hrow : ∀ r ∈ rows, ∀ x, s.snapshotOf r = .ok x ↔ r.numFailed ≠ .real ∧ x = s.view r :=
    fun r hr _ => snapshotOf_of_sound (h.sound_of_mem (hrows r hr))
  rw [mapM_eq_ok_iff]
  constructor
  · intro hxs
    have hreal : ∀ r ∈ rows, r.numFailed ≠ .real := by
      intro r hr
      have hmem : s.snapshotOf r ∈ xs.map .ok := hxs ▸ List.mem_map_of_mem hr
      obtain ⟨x, -, hx⟩ := List.mem_map.mp hmem
      exact ((hrow r hr x).mp hx.symm).1
    refine ⟨hreal, ?_⟩
    have hview : rows.map s.snapshotOf = (rows.map s.view).map .ok := by
      rw [List.map_map]
      exact List.map_congr_left fun r hr => (hrow r hr _).mpr ⟨hreal r hr, rfl⟩
    rw [hview] at hxs
    exact (List.map_injective_iff.mpr (fun _ _ => Except.ok.inj) hxs).symm
  · rintro ⟨hreal, rfl⟩
    rw [List.map_map]
    exact List.map_congr_left fun r hr => (hrow r hr _).mpr ⟨hreal r hr, rfl⟩

/-- A store can be listed if and only if all its counts of failures are integers. -/
theorem Reachable.snapshots_eq_ok_iff (h : s.Reachable) {xs : List Snapshot} :
    s.snapshots = .ok xs ↔ (∀ r ∈ s.rows, r.numFailed ≠ .real) ∧ xs = s.rows.map s.view :=
  h.mapM_snapshotOf_eq_ok_iff fun _ hr => hr

/-- A store with a count of failures that is no integer cannot be listed. -/
theorem Reachable.snapshots_of_real (h : s.Reachable) (hreal : ∃ r ∈ s.rows, r.numFailed = .real) :
    s.snapshots = .error (.database (.notAnInteger Column.numFailed.index true .real)) := by
  obtain ⟨r, hr, hreal⟩ := hreal
  refine mapM_eq_error (fun x hx e he => ?_) ⟨r, hr, snapshotOf_of_real (h.sound_of_mem hr) hreal⟩
  have hsound : x.Sound := h.sound_of_mem hx
  by_cases hx' : x.numFailed = .real
  · rw [snapshotOf_of_real hsound hx', Except.error.injEq] at he
    exact he.symm
  · rw [(snapshotOf_of_sound hsound).mpr ⟨hx', rfl⟩] at he
    cases he

end Store

end Downloads
