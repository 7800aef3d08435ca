import Downloads.Proofs.Documents.Requests

/-!
# Directories and downloads

A place is that of a directory or of a download by its path alone, and opening and deletion go by
the path. The type of a node is a text, and that of a complete download is the one it was stored
with. So a download whose stored type is that of directories shows as a directory, and can be opened
and deleted all the same; no other download shows so (`DocumentTree.shows_as_directory`).
-/

namespace Downloads

/-- The download is complete, and the type it was stored with is that of directories. -/
def Store.PosesAsDirectory (s : Store) (id : Int) : Prop :=
  ∃ r, s.find? id = some r ∧ r.status = .int Status.success.code ∧
    r.mimeType = some directoryMimeType

/-- Only a complete download has the type of its record. -/
theorem Record.isDirectory_toNode [Url.HostNames] (r : Record) (labels : StatusLabels) :
    (r.toNode labels).isDirectory = true ↔
      r.status = .success ∧ r.mimeType = some directoryMimeType := by
  have hdefault : defaultMimeType ≠ directoryMimeType := by decide
  unfold DocumentNode.isDirectory
  rw [beq_iff_eq]
  rcases hstatus : r.status <;> simp [toNode, hstatus]
  rcases r.mimeType with _ | type <;> simp [hdefault]

namespace DocumentTree

/-! ## Places -/

section Places

variable {σ : Type} [RecordStore σ] {t : DocumentTree} {store : σ} {files : Files}
  {words : RandomWords} {path : String} {p : DocumentPath} {type : Option String}

/-- Opening and deletion both refuse the path because it is that of a directory. -/
def Rejects (store : σ) (files : Files) (words : RandomWords) (path : String) : Prop :=
  ∃ place,
    (openDocument store files path "r" words).1 = .error (.unsupportedOperation .open place) ∧
      delete store path = .error (.unsupportedOperation .delete place)

theorem nodeAt_eq_ok [Url.HostNames] {r d : String} {n : DocumentNode}
    (h : t.nodeAt store p r d = .ok n) :
    checkRoot r = .ok () ∧
      ((d = rootDocumentId ∧ n = DocumentNode.directory rootDocumentId t.rootTitle) ∨
        d ≠ rootDocumentId ∧ ∃ id, DocumentId.parse d = .ok id ∧ t.found store id = .ok n) := by
  unfold nodeAt at h
  rcases hr : checkRoot r with e | u <;> rw [hr] at h
  · cases h
  refine ⟨rfl, ?_⟩
  by_cases hd : d = rootDocumentId
  · simp only [if_pos hd] at h
    cases p <;> cases h <;> exact .inl ⟨hd, rfl⟩
  · simp only [if_neg hd] at h
    rcases hid : DocumentId.parse d with e | id <;> rw [hid] at h
    · cases h
    · exact .inr ⟨hd, id, rfl, h⟩

/-- A place that has a type is that of a directory, or that of a download with a node. -/
theorem typeAt_eq_ok [Url.HostNames] (h : (t.typeAt store p words).1 = .ok type) :
    (type = some directoryMimeType ∧
      ∀ op, targetOf op p = .error (.unsupportedOperation op p.display)) ∨
      ∃ id n, (∀ op, targetOf op p = .ok id) ∧ t.found store id = .ok n ∧ type = n.mimeType := by
  cases p with
  | roots =>
    cases h
    exact .inl ⟨rfl, fun _ => rfl⟩
  | root r =>
    simp only [typeAt] at h
    rcases hr : checkRoot r with e | u <;> rw [hr] at h <;> cases h
    exact .inl ⟨rfl, fun _ => rfl⟩
  | document r d | contents r d =>
    rw [t.fst_typeAt store words rfl rfl] at h
    rcases hn : t.nodeAt store _ r d with e | n <;> rw [hn] at h <;> cases h
    obtain ⟨hr, ⟨hd, rfl⟩ | ⟨hd, id, hid, hfound⟩⟩ := nodeAt_eq_ok hn
    · refine .inl ⟨rfl, fun op => ?_⟩
      simp only [targetOf, hr, if_pos hd]
      rfl
    · refine .inr ⟨id, n, fun op => ?_, hfound, rfl⟩
      simp only [targetOf, hr, if_neg hd, hid]
      rfl

/-- The path of a directory is rejected. -/
theorem rejects_of_targetOf (hp : DocumentPath.parse path = .ok p) {place : String}
    (h : ∀ op, targetOf op p = .error (.unsupportedOperation op place)) :
    Rejects store files words path := by
  have hopen : checkOpen path "r" = targetOf .open p := by
    have hread : OpenMode.parse "r" = .ok .read := OpenMode.parse_text .read
    simp only [checkOpen, hread, hp]
    rfl
  refine ⟨place, ?_, ?_⟩
  · rw [openDocument_eq, hopen, h]
  · simp only [delete, hp, h, bind, Except.bind]

/-- The path of a download is not rejected. -/
theorem not_rejects_of_targetOf (hp : DocumentPath.parse path = .ok p) {id : Int}
    (h : ∀ op, targetOf op p = .ok id) : ¬ Rejects store files words path := by
  rintro ⟨place, -, hdelete⟩
  simp only [delete, hp, h, bind, Except.bind] at hdelete
  rcases hstore : RecordStore.delete store id with e | store' <;> rw [hstore] at hdelete
  · have hclient := DocumentError.isClientError_ofStore e
    rw [Except.error.inj hdelete] at hclient
    cases hclient
  · cases hdelete

theorem not_rejects_of_isOk (h : (delete store path).isOk = true) :
    ¬ Rejects store files words path := by
  rintro ⟨place, -, hdelete⟩
  rw [hdelete] at h
  cases h

end Places

theorem targetOf_of_names {path : String} {id : Int} (h : Names path id) :
    ∃ p, DocumentPath.parse path = .ok p ∧ ∀ op, targetOf op p = .ok id := by
  obtain ⟨p, d, hp, hroot, hd, hid⟩ := h
  refine ⟨p, hp, fun op => ?_⟩
  have hcheck : checkRoot rootId = .ok () := if_pos rfl
  have hne : d ≠ rootDocumentId := by
    rintro rfl
    have hrefused : DocumentId.parse rootDocumentId = .error (.invalidDocumentId "downloads") := by
      decide +kernel
    rw [hrefused] at hid
    cases hid
  cases p <;> cases hd <;> cases hroot <;> simp only [targetOf, hcheck, if_neg hne] <;> exact hid

/-! ## Nodes -/

section

variable [Url.HostNames] {t : DocumentTree} {s : Store} {id : Int} {n : DocumentNode}

/-- The node of a download is made of its row. -/
theorem Shows.exists_record (hn : t.Shows s id n) (h : s.Reachable) :
    ∃ r st m, s.find? id = some r ∧ Status.Storable st ∧ r.status = .int st.code ∧
      n = (r.record st m (s.headersOf r.id)).toNode t.labels := by
  obtain ⟨x, c, hx, hc, rfl⟩ := hn
  obtain ⟨r, hr, hreal⟩ := h.exists_row_of_reads ⟨x, hx, hc⟩
  obtain ⟨st, m, hst, hcode, -, -, rfl⟩ := (h.reads_iff hr hreal).mp ⟨x, hx, hc⟩
  exact ⟨r, st, m, hr, hst, hcode, rfl⟩

/-- The node of a download shows as a directory if and only if the download poses as one. -/
theorem Shows.isDirectory_iff (hn : t.Shows s id n) (h : s.Reachable) :
    n.isDirectory = true ↔ s.PosesAsDirectory id := by
  obtain ⟨r, st, m, hr, hst, hcode, rfl⟩ := hn.exists_record h
  rw [Record.isDirectory_toNode]
  constructor
  · rintro ⟨hdone, htype⟩
    obtain rfl : st = .success := hdone
    exact ⟨r, hr, hcode, htype⟩
  · rintro ⟨r', hr', hdone, htype⟩
    rw [hr, Option.some.injEq] at hr'
    subst hr'
    exact ⟨Status.eq_of_code hst Status.storable_success hcode hdone, htype⟩

/-- A row of an answer is the directory, or the node of a download. -/
theorem directory_or_shows {path : String} {words : RandomWords} {rows : List QueryRow}
    (h : s.Reachable) (hrows : (t.query s path words).1 = .ok rows) (hn : .document n ∈ rows) :
    n = DocumentNode.directory rootDocumentId t.rootTitle ∨ ∃ id, t.Shows s id n := by
  simp only [query] at hrows
  rcases hp : DocumentPath.parse path with e | p <;> simp only [hp] at hrows
  · cases hrows
  cases p with
  | roots =>
    cases hrows
    simp at hn
  | root r =>
    simp only [queryAt] at hrows
    rcases hr : checkRoot r with e | u <;> simp only [hr] at hrows
    · cases hrows
    rcases hxs : s.visibleSnapshots with e | xs
    · have herror : RecordStore.visibleSnapshots s = .error e := hxs
      simp only [listing, herror] at hrows
      cases hrows
    · obtain ⟨hreal, -⟩ := h.visibleSnapshots_eq_ok_iff.mp hxs
      have hlisted := fst_query_shownNodes (t := t) h hxs words
      rw [fst_query_root, hrows, Except.ok.injEq] at hlisted
      rw [hlisted, List.mem_map] at hn
      obtain ⟨n', hn', heq⟩ := hn
      cases heq
      obtain ⟨p, hp, rfl⟩ := List.mem_map.mp hn'
      exact .inr ⟨p.1, ((mem_shownNodes h hreal).mp hp).2⟩
  | document r d | contents r d =>
    rw [t.fst_queryAt s words rfl rfl] at hrows
    rcases hnode : t.nodeAt s _ r d with e | n' <;> rw [hnode] at hrows <;> cases hrows
    obtain rfl : n = n' := by simpa using hn
    obtain ⟨-, ⟨-, hdirectory⟩ | ⟨-, id, -, hfound⟩⟩ := nodeAt_eq_ok hnode
    · exact .inl hdirectory
    · exact .inr ⟨id, found_eq_ok_iff.mp hfound⟩

/-- **Directories and downloads.** A path that has a type has that of directories in two cases that
exclude each other: opening and deletion refuse the path because it is that of a directory, or the
path names a download that is complete and was stored with this very type. And what a query answers
with shows as a directory if it is the root directory, or the node of such a download. -/
theorem shows_as_directory (t : DocumentTree) (files : Files) (h : s.Reachable) :
    (∀ path words type, (t.getType s path words).1 = .ok type → ∀ words',
      (type = some directoryMimeType ↔
        Rejects s files words' path ∨ ∃ id, Names path id ∧ s.PosesAsDirectory id) ∧
      ¬ (Rejects s files words' path ∧ ∃ id, Names path id ∧ s.PosesAsDirectory id)) ∧
    ∀ path words rows n, (t.query s path words).1 = .ok rows → .document n ∈ rows →
      (n.isDirectory = true ↔ n = DocumentNode.directory rootDocumentId t.rootTitle ∨
        ∃ id, t.Shows s id n ∧ s.PosesAsDirectory id) := by
  constructor
  · intro path words type htype words'
    simp only [getType] at htype
    rcases hp : DocumentPath.parse path with e | p <;> simp only [hp] at htype
    · cases htype
    have hnames : ∀ {id id' : Int}, Names path id → (∀ op, targetOf op p = .ok id') → id = id' := by
      intro id id' hid hid'
      obtain ⟨p', hp', htarget⟩ := targetOf_of_names hid
      rw [hp, Except.ok.injEq] at hp'
      have heq := htarget .open
      rw [← hp', hid', Except.ok.injEq] at heq
      exact heq.symm
    obtain ⟨rfl, hrefused⟩ | ⟨id, n, htarget, hfound, rfl⟩ := typeAt_eq_ok htype
    · have hrejects : Rejects s files words' path := rejects_of_targetOf hp hrefused
      refine ⟨iff_of_true rfl (.inl hrejects), ?_⟩
      rintro ⟨-, id, hid, -⟩
      obtain ⟨p', hp', htarget⟩ := targetOf_of_names hid
      rw [hp, Except.ok.injEq] at hp'
      have herror := hrefused .open
      rw [hp', htarget] at herror
      cases herror
    · have hnot : ¬ Rejects s files words' path := not_rejects_of_targetOf hp htarget
      have hnode : t.Shows s id n := found_eq_ok_iff.mp hfound
      refine ⟨?_, fun hboth => hnot hboth.1⟩
      have hdirectory := hnode.isDirectory_iff h
      rw [DocumentNode.isDirectory, beq_iff_eq] at hdirectory
      rw [hdirectory, or_iff_right hnot]
      constructor
      · exact fun hposes => ⟨id, names_of_targetOf hp (htarget .open), hposes⟩
      · rintro ⟨id', hid', hposes⟩
        rwa [hnames hid' htarget] at hposes
  · intro path words rows n hrows hn
    constructor
    · intro hdirectory
      obtain hroot | ⟨id, hnode⟩ := directory_or_shows h hrows hn
      · exact .inl hroot
      · exact .inr ⟨id, hnode, (hnode.isDirectory_iff h).mp hdirectory⟩
    · rintro (rfl | ⟨id, hnode, hposes⟩)
      · rfl
      · exact (hnode.isDirectory_iff h).mpr hposes

end

/-- A download that was stored with the type of directories. -/
def posingStore : Store :=
  .run .empty [.insert { uri := "https://example.com/a" } 0,
    .markSuccess 1 ⟨5, "a", some directoryMimeType⟩ 1]

/-- The files of the store, of which there is one. -/
def posingFiles : Files := Files.empty.write "a" [104, 101, 108, 108, 111]

/-- The download shows as a directory, and yet it can be opened and deleted. -/
theorem not_rejects_posingStore :
    posingStore.Reachable ∧
      (getType {} posingStore "roots/downloads/docs/id:1" ⟨[], 0⟩).1 =
        .ok (some directoryMimeType) ∧
      (openDocument posingStore posingFiles "roots/downloads/docs/id:1" "r" ⟨[], 0⟩).1 =
        .ok ⟨"a", .file [104, 101, 108, 108, 111]⟩ ∧
      (delete posingStore "roots/downloads/docs/id:1").isOk = true ∧
      ¬ Rejects posingStore posingFiles ⟨[], 0⟩ "roots/downloads/docs/id:1" := by
  have hdelete : (delete posingStore "roots/downloads/docs/id:1").isOk = true := by decide +kernel
  exact ⟨⟨_, rfl⟩, by decide +kernel, by decide +kernel, hdelete, not_rejects_of_isOk hdelete⟩

theorem shows_as_directory_posingStore :
    posingStore.Reachable ∧
      (∃ id, Names "roots/downloads/docs/id:1" id ∧ posingStore.PosesAsDirectory id) ∧
      ∀ n, (query {} posingStore "roots/downloads" ⟨[], 0⟩).1 = .ok [.document n] →
        n.documentId = "id:1" → n.isDirectory = true →
          ∃ id, Shows {} posingStore id n ∧ posingStore.PosesAsDirectory id := by
  have hreach : posingStore.Reachable := ⟨_, rfl⟩
  obtain ⟨htypes, hrows⟩ := shows_as_directory {} posingFiles hreach
  have htype : (getType {} posingStore "roots/downloads/docs/id:1" ⟨[], 0⟩).1 =
      .ok (some directoryMimeType) := by decide +kernel
  obtain ⟨hcases, -⟩ := htypes _ _ _ htype ⟨[], 0⟩
  refine ⟨hreach, (hcases.mp rfl).resolve_left (not_rejects_of_isOk (by decide +kernel)), ?_⟩
  intro n hlisted hid hdirectory
  obtain rfl | hposes := (hrows _ _ _ n hlisted (by simp)).mp hdirectory
  · exact absurd hid (by decide)
  · exact hposes

end DocumentTree

end Downloads
