import Downloads.Proofs.Documents.Requests
import Mathlib.Data.List.Sort

/-!
# What clients cannot tell

Clients of the document tree see the id, the source, the title, the status and the last change of a
download that is shown, and the type, the size and the description of one that is complete. Two
stores that agree on this answer every question alike, unless its path names a download that one of
them hides (`DocumentTree.answers_alike`).
-/

namespace Downloads

/-! ## Rows that look alike -/

namespace Column

/-- The columns of which clients always see something. -/
def shown : List Column := [.id, .uri, .title, .status, .lastModifiedMs]

/-- The columns of which clients see something once the download is complete. -/
def shownWhenComplete : List Column := [.mimeType, .totalBytes, .description]

end Column

/-- The rows agree on what clients see. -/
structure Row.LooksLike (r r' : Row) : Prop where
  shown : ∀ c ∈ Column.shown, r.cell? c = r'.cell? c
  complete : r.status = .int Status.success.code →
    ∀ c ∈ Column.shownWhenComplete, r.cell? c = r'.cell? c

namespace Store

/-- The download of the row can be read. -/
def RowReads (s : Store) (r : Row) (c : Record) : Prop :=
  ∃ x, s.snapshotOf r = .ok x ∧ Record.ofSnapshot x = .ok c

/-- The rows stand by ascending id, and those that are shown can be read. -/
structure Presentable (s : Store) : Prop where
  ascending : (s.rows.map (·.id)).Pairwise (· < ·)
  reads : ∀ r ∈ s.rows, r.isShown = true → ∃ c, s.RowReads r c

/-- The stores show downloads that look alike, and no others. -/
structure LooksLike (s s' : Store) : Prop where
  forth : ∀ r ∈ s.rows, r.isShown = true → ∃ r' ∈ s'.rows, r'.isShown = true ∧ r.LooksLike r'
  back : ∀ r' ∈ s'.rows, r'.isShown = true → ∃ r ∈ s.rows, r.isShown = true ∧ r.LooksLike r'

/-- The store has the download, and does not show it. -/
def Hides (s : Store) (id : Int) : Prop := ∃ r ∈ s.rows, r.id = id ∧ r.isShown = false

end Store

/-! ## Deciding -/

instance (r r' : Row) : Decidable (r.LooksLike r') :=
  decidable_of_iff ((∀ c ∈ Column.shown, r.cell? c = r'.cell? c) ∧
      (r.status = .int Status.success.code →
        ∀ c ∈ Column.shownWhenComplete, r.cell? c = r'.cell? c))
    ⟨fun h => ⟨h.1, h.2⟩, fun h => ⟨h.1, h.2⟩⟩

namespace Store

theorem exists_rowReads_iff {s : Store} {r : Row} :
    (∃ c, s.RowReads r c) ↔
      ((s.snapshotOf r).toOption.bind fun x => (Record.ofSnapshot x).toOption).isSome = true := by
  rcases hx : s.snapshotOf r with e | x
  · simp [RowReads, hx, Except.toOption]
  · rcases hc : Record.ofSnapshot x with e | c <;> simp [RowReads, hx, hc, Except.toOption]

instance (s : Store) (r : Row) : Decidable (∃ c, s.RowReads r c) :=
  decidable_of_iff _ exists_rowReads_iff.symm

instance (s s' : Store) : Decidable (s.LooksLike s') :=
  decidable_of_iff
    ((∀ r ∈ s.rows, r.isShown = true → ∃ r' ∈ s'.rows, r'.isShown = true ∧ r.LooksLike r') ∧
      ∀ r' ∈ s'.rows, r'.isShown = true → ∃ r ∈ s.rows, r.isShown = true ∧ r.LooksLike r')
    ⟨fun h => ⟨h.1, h.2⟩, fun h => ⟨h.1, h.2⟩⟩

instance (s : Store) (id : Int) : Decidable (s.Hides id) :=
  inferInstanceAs (Decidable (∃ r ∈ s.rows, _ ∧ _))

end Store

/-! ## What is read of columns -/

/-- The record holds what is read of the columns that clients see. -/
structure Record.HoldsShown (c : Record) (f : Fields) : Prop where
  id : f.integer .id = .ok c.id
  uri : f.text .uri = .ok c.sourceUri
  title : f.text? .title = .ok c.displayTitle
  status : f.coded .status Status.ofCode? = .ok c.status
  lastModifiedMs : f.integer .lastModifiedMs = .ok c.lastModificationTimeMillis
  mimeType : f.text? .mimeType = .ok c.mimeType
  totalBytes : f.integer .totalBytes = .ok c.totalBytes
  description : f.text? .description = .ok c.description

theorem Record.holdsShown_of_ok {x : Snapshot} {c : Record} (h : ofSnapshot x = .ok c) :
    c.HoldsShown x.row := by
  simp only [ofSnapshot, bind, Except.bind] at h
  repeat (split at h; · cases h)
  cases h
  constructor <;> assumption

namespace Fields

variable {f f' : Fields} {c : Column}

theorem integer_congr (h : f.find? c.name = f'.find? c.name) : f.integer c = f'.integer c := by
  simp only [integer, h]

theorem text?_congr (h : f.find? c.name = f'.find? c.name) : f.text? c = f'.text? c := by
  simp only [text?, h]

theorem text_congr (h : f.find? c.name = f'.find? c.name) : f.text c = f'.text c := by
  simp only [text, text?_congr h]

theorem coded_congr {α : Type} (h : f.find? c.name = f'.find? c.name) (ofCode? : Int → Option α) :
    f.coded c ofCode? = f'.coded c ofCode? := by
  simp only [coded, integer_congr h]

end Fields

/-- A code stands for one status. -/
theorem Status.code_of_ofCode? {n : Int} {st : Status} (h : ofCode? n = some st) : n = st.code := by
  by_cases hfailure : isFailureCode n = true
  · have hrange : 400 ≤ n ∧ n ≤ 599 := by simpa [isFailureCode] using hfailure
    rw [ofCode?, if_neg (by omega), if_neg (by omega), if_neg (by omega), if_neg (by omega),
      if_neg (by omega), if_pos hfailure] at h
    cases h
    simp only [code, UInt16.toNat_ofNat']
    omega
  · simp only [ofCode?, if_neg hfailure] at h
    split_ifs at h <;> cases h <;> assumption

namespace Row

variable {r r' : Row} {f f' : Fields}

/-- Columns with the same cell are read alike. -/
theorem find?_eq_of_fields (hf : r.fields = .ok f) (hf' : r'.fields = .ok f') {c : Column}
    (h : r.cell? c = r'.cell? c) : f.find? c.name = f'.find? c.name := by
  obtain ⟨v, hv, hfind⟩ := r.find?_of_fields hf c
  obtain ⟨v', hv', hfind'⟩ := r'.find?_of_fields hf' c
  have hread : r.read c = r'.read c := by rw [read, read, h]
  rw [hv, hv', Except.ok.injEq] at hread
  rw [hfind, hfind', hread]

/-- A status is read only of its code. -/
theorem status_of_fields (hf : r.fields = .ok f) {st : Status}
    (h : f.coded .status Status.ofCode? = .ok st) : r.status = .int st.code := by
  obtain ⟨v, hv, hfind⟩ := r.find?_of_fields hf .status
  have hread : r.status.read Column.status.index = .ok v := hv
  rcases hcell : r.status with n | t | _ <;> rw [hcell] at hread <;> cases hread
  simp only [Fields.coded, Fields.integer, hfind] at h
  split at h <;> cases h
  rename_i hcode
  rw [Status.code_of_ofCode? hcode]

end Row

/-! ## Nodes -/

theorem Record.displayName_congr [Url.HostNames] {c c' : Record} (hid : c.id = c'.id)
    (huri : c.sourceUri = c'.sourceUri) (htitle : c.displayTitle = c'.displayTitle) :
    c.displayName = c'.displayName := by
  simp only [displayName, shownTitle?, sourceName?, fallbackName, hid, huri, htitle]

/-- Records that hold the same for clients have the same node. -/
theorem Record.toNode_congr [Url.HostNames] {c c' : Record} (hid : c.id = c'.id)
    (huri : c.sourceUri = c'.sourceUri) (htitle : c.displayTitle = c'.displayTitle)
    (hstatus : c.status = c'.status)
    (htime : c.lastModificationTimeMillis = c'.lastModificationTimeMillis)
    (hcomplete : c.status = .success → c.mimeType = c'.mimeType ∧ c.totalBytes = c'.totalBytes ∧
      c.description = c'.description) (labels : StatusLabels) :
    c.toNode labels = c'.toNode labels := by
  have hname := displayName_congr hid huri htitle
  by_cases hdone : c.status = .success
  · obtain ⟨hmime, htotal, hdescription⟩ := hcomplete hdone
    have hdone' : c'.status = .success := hstatus ▸ hdone
    simp only [toNode, hdone, hdone', knownTotalBytes, hid, hname, htime, hmime, htotal,
      hdescription]
  · unfold toNode
    rw [← hstatus, hid, hname, htime]
    cases hst : c.status <;> simp_all

namespace Store

variable {s s' : Store} {r r' : Row} {c c' : Record}

theorem fields_of_snapshotOf {x : Snapshot} (h : s.snapshotOf r = .ok x) :
    r.fields = .ok x.row := by
  unfold snapshotOf at h
  split at h <;> cases h
  assumption

/-- Rows that look alike have the same node. -/
theorem RowReads.toNode_eq [Url.HostNames] (hc : s.RowReads r c) (hc' : s'.RowReads r' c')
    (h : r.LooksLike r') (labels : StatusLabels) : c.toNode labels = c'.toNode labels := by
  obtain ⟨x, hx, hrecord⟩ := hc
  obtain ⟨x', hx', hrecord'⟩ := hc'
  have hf := fields_of_snapshotOf hx
  have hf' := fields_of_snapshotOf hx'
  have hshown : ∀ col ∈ Column.shown, x.row.find? col.name = x'.row.find? col.name :=
    fun col hcol => Row.find?_eq_of_fields hf hf' (h.shown col hcol)
  have hold := Record.holdsShown_of_ok hrecord
  have hold' := Record.holdsShown_of_ok hrecord'
  apply Record.toNode_congr
  case hid =>
    have hread := Fields.integer_congr (hshown .id (by decide))
    rwa [hold.id, hold'.id, Except.ok.injEq] at hread
  case huri =>
    have hread := Fields.text_congr (hshown .uri (by decide))
    rwa [hold.uri, hold'.uri, Except.ok.injEq] at hread
  case htitle =>
    have hread := Fields.text?_congr (hshown .title (by decide))
    rwa [hold.title, hold'.title, Except.ok.injEq] at hread
  case hstatus =>
    have hread := Fields.coded_congr (hshown .status (by decide)) Status.ofCode?
    rwa [hold.status, hold'.status, Except.ok.injEq] at hread
  case htime =>
    have hread := Fields.integer_congr (hshown .lastModifiedMs (by decide))
    rwa [hold.lastModifiedMs, hold'.lastModifiedMs, Except.ok.injEq] at hread
  case hcomplete =>
    intro hdone
    have hcode : r.status = .int Status.success.code :=
      hdone ▸ Row.status_of_fields hf hold.status
    have hcomplete : ∀ col ∈ Column.shownWhenComplete,
        x.row.find? col.name = x'.row.find? col.name :=
      fun col hcol => Row.find?_eq_of_fields hf hf' (h.complete hcode col hcol)
    have hmime := Fields.text?_congr (hcomplete .mimeType (by decide))
    have htotal := Fields.integer_congr (hcomplete .totalBytes (by decide))
    have hdescription := Fields.text?_congr (hcomplete .description (by decide))
    rw [hold.mimeType, hold'.mimeType, Except.ok.injEq] at hmime
    rw [hold.totalBytes, hold'.totalBytes, Except.ok.injEq] at htotal
    rw [hold.description, hold'.description, Except.ok.injEq] at hdescription
    exact ⟨hmime, htotal, hdescription⟩

end Store

/-! ## Stores that look alike -/

theorem Row.LooksLike.id_eq {r r' : Row} (h : r.LooksLike r') : r.id = r'.id := by
  have hid := h.shown .id (by decide)
  rwa [cell?, cell?, Option.some.injEq, Cell.int.injEq] at hid

namespace Store

variable {s s' : Store}

/-- The rows of a store that came about by calls stand by ascending id. -/
theorem Reachable.presentable [Url.HostNames] (h : s.Reachable)
    (hreads : ∀ r ∈ s.rows, r.isShown = true → ∃ c, s.RowReads r c) : s.Presentable :=
  ⟨h.ordered.ascending, hreads⟩

theorem Presentable.eq_of_id (h : s.Presentable) {r r' : Row} (hr : r ∈ s.rows) (hr' : r' ∈ s.rows)
    (hid : r.id = r'.id) : r = r' :=
  List.inj_on_of_nodup_map (h.ascending.imp Int.ne_of_lt) hr hr' hid

/-- Stores that look alike show rows that look alike, one beside the other. -/
theorem LooksLike.forall₂ (h : s.LooksLike s') (hs : s.Presentable) (hs' : s'.Presentable) :
    List.Forall₂ Row.LooksLike (s.rows.filter Row.isShown) (s'.rows.filter Row.isShown) := by
  have hids : (s.rows.filter Row.isShown).map (·.id) = (s'.rows.filter Row.isShown).map (·.id) := by
    refine List.Pairwise.eq_of_mem_iff (hs.ascending.sublist (List.filter_sublist.map _))
      (hs'.ascending.sublist (List.filter_sublist.map _)) fun id => ?_
    simp only [List.mem_map, List.mem_filter]
    constructor
    · rintro ⟨r, ⟨hr, hshown⟩, rfl⟩
      obtain ⟨r', hr', hshown', hlike⟩ := h.forth r hr hshown
      exact ⟨r', ⟨hr', hshown'⟩, hlike.id_eq.symm⟩
    · rintro ⟨r', ⟨hr', hshown'⟩, rfl⟩
      obtain ⟨r, hr, hshown, hlike⟩ := h.back r' hr' hshown'
      exact ⟨r, ⟨hr, hshown⟩, hlike.id_eq⟩
  rw [← List.forall₂_eq_eq_eq, List.forall₂_map_left_iff, List.forall₂_map_right_iff,
    List.forall₂_iff_zip] at hids
  refine List.forall₂_iff_zip.mpr ⟨hids.1, fun {r r'} hzip => ?_⟩
  obtain ⟨hr, hr'⟩ := List.of_mem_zip hzip
  obtain ⟨hr, hshown⟩ := List.mem_filter.mp hr
  obtain ⟨y, hy, -, hlike⟩ := h.forth r hr hshown
  have hid : y.id = r'.id := hlike.id_eq.symm.trans (hids.2 hzip)
  obtain rfl : y = r' := hs'.eq_of_id hy (List.mem_of_mem_filter hr') hid
  exact hlike

/-- A download that is not hidden is shown by neither store, or by both and looks alike. -/
theorem LooksLike.find? (h : s.LooksLike s') (hs' : s'.Presentable) {id : Int}
    (hhides : ¬ s.Hides id) (hhides' : ¬ s'.Hides id) :
    s.find? id = none ∧ s'.find? id = none ∨
      ∃ r r', s.find? id = some r ∧ s'.find? id = some r' ∧ r.isShown = true ∧
        r'.isShown = true ∧ r.LooksLike r' := by
  have hshown : ∀ {s : Store} {r : Row}, ¬ s.Hides id → s.find? id = some r → r.isShown = true := by
    intro s r hhides hr
    rw [← Bool.not_eq_false]
    exact fun hhidden => hhides ⟨r, mem_of_find? hr, id_of_find? hr, hhidden⟩
  rcases hr : s.find? id with _ | r
  · rcases hr' : s'.find? id with _ | r'
    · exact .inl ⟨rfl, rfl⟩
    · obtain ⟨r, hmem, -, hlike⟩ := h.back r' (mem_of_find? hr') (hshown hhides' hr')
      exact absurd (hlike.id_eq.trans (id_of_find? hr')) (find?_eq_none_iff.mp hr r hmem)
  · obtain ⟨y, hy, hyshown, hlike⟩ := h.forth r (mem_of_find? hr) (hshown hhides hr)
    rcases hr' : s'.find? id with _ | r'
    · exact absurd (hlike.id_eq.symm.trans (id_of_find? hr)) (find?_eq_none_iff.mp hr' y hy)
    · have hid : y.id = r'.id := by rw [← hlike.id_eq, id_of_find? hr, id_of_find? hr']
      obtain rfl : y = r' := hs'.eq_of_id hy (mem_of_find? hr') hid
      exact .inr ⟨r, y, rfl, rfl, hshown hhides hr, hyshown, hlike⟩

end Store

/-! ## Answers -/

namespace DocumentTree

open Store

/-- A path names no other download than the one that its place leads to. -/
theorem Names.place {path : String} {p : DocumentPath} {id : Int} (h : Names path id)
    (hp : DocumentPath.parse path = .ok p) :
    p.documentId?.map DocumentId.parse = some (.ok id) := by
  obtain ⟨p', d, hp', -, hd, hid⟩ := h
  obtain rfl : p = p' := Except.ok.inj (hp.symm.trans hp')
  rw [hd, Option.map_some, hid]

section

variable [Url.HostNames] {s s' : Store} (t : DocumentTree)

/-- Rows that look alike are listed with the same nodes. -/
theorem filterMap_nodeOf?_alike {rows rows' : List Row}
    (h : List.Forall₂ Row.LooksLike rows rows') (hreads : ∀ r ∈ rows, ∃ c, s.RowReads r c)
    (hreads' : ∀ r' ∈ rows', ∃ c', s'.RowReads r' c') :
    ∃ xs xs', rows.mapM s.snapshotOf = .ok xs ∧ rows'.mapM s'.snapshotOf = .ok xs' ∧
      xs.filterMap t.nodeOf? = xs'.filterMap t.nodeOf? := by
  induction h with
  | nil => exact ⟨[], [], rfl, rfl, rfl⟩
  | @cons r r' rows rows' hlike _ ih =>
    rw [List.forall_mem_cons] at hreads hreads'
    obtain ⟨⟨c, hc⟩, hrows⟩ := hreads
    obtain ⟨⟨c', hc'⟩, hrows'⟩ := hreads'
    obtain ⟨xs, xs', hxs, hxs', hnodes⟩ := ih hrows hrows'
    have hnode : c.toNode t.labels = c'.toNode t.labels := hc.toNode_eq hc' hlike t.labels
    obtain ⟨x, hx, hrecord⟩ := hc
    obtain ⟨x', hx', hrecord'⟩ := hc'
    refine ⟨x :: xs, x' :: xs', by rw [List.mapM_cons, hx, hxs]; rfl,
      by rw [List.mapM_cons, hx', hxs']; rfl, ?_⟩
    rw [List.filterMap_cons_some (t.nodeOf?_of_ok hrecord),
      List.filterMap_cons_some (t.nodeOf?_of_ok hrecord'), hnode, hnodes]

theorem listing_alike (hs : s.Presentable) (hs' : s'.Presentable) (h : s.LooksLike s')
    (words words' : RandomWords) : (t.listing s words).1 = (t.listing s' words').1 := by
  have hshown : ∀ {s : Store}, s.Presentable →
      ∀ r ∈ s.rows.filter Row.isShown, ∃ c, s.RowReads r c := fun hs r hr =>
    hs.reads r (List.mem_of_mem_filter hr) (List.mem_filter.mp hr).2
  obtain ⟨xs, xs', hxs, hxs', hnodes⟩ :=
    t.filterMap_nodeOf?_alike (h.forall₂ hs hs') (hshown hs) (hshown hs')
  have hvisible : RecordStore.visibleSnapshots s = .ok xs := hxs
  have hvisible' : RecordStore.visibleSnapshots s' = .ok xs' := hxs'
  simp only [listing, hvisible, hvisible', fst_nodes, hnodes]

theorem found_of_find?_none {id : Int} (h : s.find? id = none) :
    t.found s id = .error (.notFound (.download id)) := by
  have hsnapshot : RecordStore.snapshot? s id = .ok none := by
    show s.snapshot? id = .ok none
    simp only [snapshot?, h]
  simp only [found, hsnapshot]
  rfl

theorem found_of_rowReads {id : Int} {r : Row} {c : Record} (h : s.find? id = some r)
    (hc : s.RowReads r c) : t.found s id = .ok (c.toNode t.labels) := by
  obtain ⟨x, hx, hrecord⟩ := hc
  refine found_eq_ok_iff.mpr ⟨x, c, ?_, hrecord, rfl⟩
  simp only [snapshot?, h, hx]
  rfl

/-- A download that neither store hides is found in both, with the same node, or in neither. -/
theorem found_alike (hs : s.Presentable) (hs' : s'.Presentable) (h : s.LooksLike s') {id : Int}
    (hhides : ¬ s.Hides id) (hhides' : ¬ s'.Hides id) : t.found s id = t.found s' id := by
  obtain ⟨hr, hr'⟩ | ⟨r, r', hr, hr', hshown, hshown', hlike⟩ := h.find? hs' hhides hhides'
  · rw [t.found_of_find?_none hr, t.found_of_find?_none hr']
  · obtain ⟨c, hc⟩ := hs.reads r (mem_of_find? hr) hshown
    obtain ⟨c', hc'⟩ := hs'.reads r' (mem_of_find? hr') hshown'
    rw [t.found_of_rowReads hr hc, t.found_of_rowReads hr' hc', hc.toNode_eq hc' hlike]

/-- The node at a place depends on the store only through the download that the place names. -/
theorem nodeAt_congr {p : DocumentPath} {r d : String}
    (h : ∀ id, r = rootId → DocumentId.parse d = .ok id → t.found s id = t.found s' id) :
    t.nodeAt s p r d = t.nodeAt s' p r d := by
  unfold nodeAt
  by_cases hr : r = rootId
  · have hcheck : checkRoot r = .ok () := if_pos hr
    rw [hcheck]
    by_cases hd : d = rootDocumentId
    · simp only [if_pos hd]
      cases p <;> rfl
    · simp only [if_neg hd]
      rcases hid : DocumentId.parse d with e | id
      · rfl
      · exact h id hr hid
  · have hcheck : checkRoot r = .error (.notFound (.root r)) := if_neg hr
    rw [hcheck]
    rfl

/-- **Nothing else shows.** Two stores whose shown downloads agree, one by one, on the id, the
source, the title, the status and the last change, and on the type, the size and the description of
those that are complete, answer every question about the tree alike, whatever the random words are,
unless the path names a download that one of the stores hides. -/
theorem answers_alike (hs : s.Presentable) (hs' : s'.Presentable) (h : s.LooksLike s')
    {path : String} (hpath : ∀ id, Names path id → ¬ s.Hides id ∧ ¬ s'.Hides id)
    (words words' : RandomWords) :
    (t.query s path words).1 = (t.query s' path words').1 ∧
      (t.getType s path words).1 = (t.getType s' path words').1 := by
  rw [query, query, getType, getType]
  rcases hp : DocumentPath.parse path with e | p
  · exact ⟨rfl, rfl⟩
  cases p with
  | roots => exact ⟨rfl, rfl⟩
  | root r =>
    simp only [queryAt, typeAt]
    rcases checkRoot r with e | u
    · simp only [and_self]
    · simp only [t.listing_alike hs hs' h words words', and_self]
  | document r d | contents r d =>
    have hnode : ∀ p : DocumentPath, t.nodeAt s p r d = t.nodeAt s' p r d := by
      refine fun p => t.nodeAt_congr fun id hr hid => ?_
      obtain ⟨hhides, hhides'⟩ := hpath id ⟨_, d, hp, congrArg some hr, rfl, hid⟩
      exact t.found_alike hs hs' h hhides hhides'
    simp only
    rw [t.fst_queryAt s words rfl rfl, t.fst_queryAt s' words' rfl rfl,
      t.fst_typeAt s words rfl rfl, t.fst_typeAt s' words' rfl rfl, hnode]
    exact ⟨rfl, rfl⟩

end

/-- Two downloads, of which the second is complete. -/
def plainStore : Store :=
  .run .empty [.insert { uri := "https://example.com/a", title := some "a" } 0,
    .insert { uri := "https://example.com/b" } 0, .markSuccess 2 ⟨5, "b", some "image/png"⟩ 1]

/-- The same downloads with all that clients do not see, and a third that is hidden. -/
def burdenedStore : Store :=
  .run .empty [
    .insert {
      uri := "https://example.com/a", title := some "a", mimeType := some "text/html",
      description := some "secret", cookies := some "session=1", referer := some "r",
      userAgent := some "u", visibility := .hidden, headers := [("X-Key", "k")] } 0,
    .insert { uri := "https://example.com/b", control := .paused } 0,
    .insert { uri := "https://example.com/c", visibleInUi := false } 0, .addHeader 2 "X-Key" "l",
    .updateProgress 1 3 9, .markFailed 2 503 0, .markSuccess 2 ⟨5, "c/b", some "image/png"⟩ 1]

theorem answers_alike_burdenedStore :
    plainStore.Presentable ∧ burdenedStore.Presentable ∧ plainStore.LooksLike burdenedStore ∧
      plainStore ≠ burdenedStore ∧
      (query {} plainStore "roots/downloads" ⟨[7], 0⟩).1 =
        (query {} burdenedStore "roots/downloads" ⟨[8, 9], 0⟩).1 ∧
      (query {} plainStore "roots/downloads/docs/id:1" ⟨[], 0⟩).1 =
        (query {} burdenedStore "roots/downloads/docs/id:1" ⟨[8], 0⟩).1 ∧
      (getType {} plainStore "roots/downloads/docs/id:1" ⟨[], 0⟩).1 =
        (getType {} burdenedStore "roots/downloads/docs/id:1" ⟨[8], 0⟩).1 := by
  have hs : plainStore.Presentable := Reachable.presentable ⟨_, rfl⟩ (by decide +kernel)
  have hs' : burdenedStore.Presentable := Reachable.presentable ⟨_, rfl⟩ (by decide +kernel)
  have h : plainStore.LooksLike burdenedStore := by decide +kernel
  have hroot : ∀ id, Names "roots/downloads" id →
      ¬ plainStore.Hides id ∧ ¬ burdenedStore.Hides id := by
    intro id hid
    cases hid.place (p := .root rootId) (by decide +kernel)
  have hfirst : ∀ id, Names "roots/downloads/docs/id:1" id →
      ¬ plainStore.Hides id ∧ ¬ burdenedStore.Hides id := by
    intro id hid
    have hone : DocumentId.parse "id:1" = .ok 1 := by decide +kernel
    have hplace := hid.place (p := .document rootId "id:1") (by decide +kernel)
    obtain rfl : 1 = id := Except.ok.inj (hone.symm.trans (Option.some.inj hplace))
    decide +kernel
  refine ⟨hs, hs', h, by decide +kernel, (answers_alike {} hs hs' h hroot _ _).1, ?_⟩
  exact answers_alike {} hs hs' h hfirst _ _

end DocumentTree

end Downloads
