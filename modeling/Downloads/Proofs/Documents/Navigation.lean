import Downloads.Documents.Tree
import Downloads.Proofs.Documents.Address
import Downloads.Proofs.Schedule.Listing
import Downloads.Proofs.Store.Batch

/-!
# Navigating the document tree

The node of a download is made of its record, and the random words that building it takes do not
show (`DocumentTree.nodeOf?`). So the listing of the root and the questions about its documents give
the same nodes, and a question about the type of a place fails as a question about the place does
(`DocumentTree.navigation`).
-/

namespace Downloads

namespace DocumentTree

theorem map_eq_error_iff {ε α β : Type} {f : α → β} {x : Except ε α} {e : ε} :
    x.map f = .error e ↔ x = .error e := by
  cases x <;> simp [Except.map]

section

variable [Url.HostNames]

/-- The node of a snapshot, if it is a record. -/
def nodeOf? (t : DocumentTree) (x : Snapshot) : Option DocumentNode :=
  (Record.ofSnapshot x).toOption.map (·.toNode t.labels)

theorem nodeOf?_of_ok (t : DocumentTree) {x : Snapshot} {c : Record}
    (h : Record.ofSnapshot x = .ok c) : t.nodeOf? x = some (c.toNode t.labels) := by
  rw [nodeOf?, h]
  rfl

theorem nodeOf?_eq_some {t : DocumentTree} {x : Snapshot} {n : DocumentNode} :
    t.nodeOf? x = some n ↔ ∃ c, Record.ofSnapshot x = .ok c ∧ n = c.toNode t.labels := by
  rcases hx : Record.ofSnapshot x with e | c
  · simp [nodeOf?, hx, Except.toOption]
  · simp [nodeOf?, hx, Except.toOption, eq_comm]

section Words

variable {σ : Type} [RecordStore σ] (t : DocumentTree) (store : σ) (words : RandomWords)

/-! ## Answers without random words -/

theorem fst_node? (x : Snapshot) : (t.node? x words).1 = t.nodeOf? x := by
  rcases hx : Record.ofSnapshot x with e | c
  · simp only [node?, Record.build_of_error hx, nodeOf?, hx]
    rfl
  · rw [t.nodeOf?_of_ok hx, node?, Record.build_of_ok hx]
    rfl

theorem fst_nodes (xs : List Snapshot) : (t.nodes xs words).1 = xs.filterMap t.nodeOf? := by
  induction xs generalizing words with
  | nil => rfl
  | cons x xs ih =>
    show (t.node? x words).1.toList ++ (t.nodes xs (t.node? x words).2).1 = _
    rw [ih, fst_node?, List.filterMap_cons]
    cases t.nodeOf? x <;> rfl

/-- The node of a download. -/
def found (id : Int) : Except DocumentError DocumentNode :=
  match RecordStore.snapshot? store id with
  | .error e => .error (.ofStore e)
  | .ok x => (x.bind t.nodeOf?).elim (.error (.notFound (.download id))) .ok

theorem fst_download (id : Int) : (t.download store id words).1 = t.found store id := by
  unfold download found
  rcases RecordStore.snapshot? store id with e | _ | x
  · rfl
  · rfl
  · simp only [Option.bind_some, ← t.fst_node? words]
    rcases t.node? x words with ⟨_ | n, words'⟩ <;> rfl

/-- The node at a place that names a document. -/
def nodeAt (path : DocumentPath) (r d : String) : Except DocumentError DocumentNode := do
  checkRoot r
  if d = rootDocumentId then
    match path with
    | .contents .. => throw (.unsupportedOperation .contents path.display)
    | _ => return DocumentNode.directory rootDocumentId t.rootTitle
  t.found store (← DocumentId.parse d)

theorem nodeAt_eq (path : DocumentPath) (r d : String) :
    t.nodeAt store path r d = (checkRoot r).bind fun _ => (t.document store path d words).1 := by
  unfold nodeAt document
  rcases checkRoot r with e | u
  · rfl
  · by_cases h : d = rootDocumentId
    · simp only [if_pos h]
      cases path <;> rfl
    · simp only [if_neg h]
      rcases DocumentId.parse d with e | id
      · rfl
      · exact (t.fst_download store words id).symm

variable {path : DocumentPath} {r d : String}

theorem fst_queryAt (hr : path.rootId? = some r) (hd : path.documentId? = some d) :
    (t.queryAt store path words).1 = (t.nodeAt store path r d).map fun n => [.document n] := by
  rw [t.nodeAt_eq store words]
  cases path <;> cases hd <;> cases hr
  all_goals
    simp only [queryAt]
    cases checkRoot r <;> rfl

theorem fst_typeAt (hr : path.rootId? = some r) (hd : path.documentId? = some d) :
    (t.typeAt store path words).1 = (t.nodeAt store path r d).map (·.mimeType) := by
  rw [t.nodeAt_eq store words]
  cases path <;> cases hd <;> cases hr
  all_goals
    simp only [typeAt]
    cases checkRoot r <;> rfl

/-! ## Questions about places -/

variable {store}

/-- The type of a place cannot be told for the very reason for which the place cannot be queried,
if the downloads can be listed. -/
theorem queryAt_eq_error_iff {xs : List Snapshot} (h : RecordStore.visibleSnapshots store = .ok xs)
    (path : DocumentPath) (words' : RandomWords) (e : DocumentError) :
    (t.queryAt store path words).1 = .error e ↔ (t.typeAt store path words').1 = .error e := by
  cases path with
  | roots => simp [queryAt, typeAt]
  | root r =>
    simp only [queryAt, typeAt, listing, h]
    cases checkRoot r <;> simp [Except.map]
  | document r d | contents r d =>
    rw [t.fst_queryAt store words rfl rfl, t.fst_typeAt store words' rfl rfl, map_eq_error_iff,
      map_eq_error_iff]

theorem query_eq_error_iff {xs : List Snapshot} (h : RecordStore.visibleSnapshots store = .ok xs)
    (path : String) (words' : RandomWords) (e : DocumentError) :
    (t.query store path words).1 = .error e ↔ (t.getType store path words').1 = .error e := by
  simp only [query, getType]
  rcases DocumentPath.parse path with e' | p
  · simp
  · exact t.queryAt_eq_error_iff words h p words' e

theorem fst_query_root :
    (t.query store "roots/downloads" words).1 =
      (t.listing store words).1.map fun ns => ns.map .document := by
  have hpath : DocumentPath.parse "roots/downloads" = .ok (.root rootId) := by decide +kernel
  rw [query, hpath]
  rfl

theorem fst_query_root_of_ok {xs : List Snapshot}
    (h : RecordStore.visibleSnapshots store = .ok xs) :
    (t.query store "roots/downloads" words).1 =
      .ok ((xs.filterMap t.nodeOf?).map .document) := by
  rw [fst_query_root, ← t.fst_nodes words]
  simp only [listing, h]
  rfl

/-- The place of a document, and the place of its contents. -/
def placesOf (documentId : String) : List String :=
  ["roots/downloads/docs/" ++ documentId, "roots/downloads/docs/" ++ documentId ++ "/contents"]

/-- A document of a download is found at its place and at the place of its contents. -/
theorem fst_query_placesOf {id : Int} {n : DocumentNode} (h : t.found store id = .ok n)
    (hmin : minInt64 ≤ id) (hmax : id ≤ maxInt64) {path : String}
    (hpath : path ∈ placesOf (DocumentId.ofRecordId id)) :
    (t.query store path words).1 = .ok [.document n] ∧
      (t.getType store path words).1 = .ok n.mimeType := by
  have hroot : PlainPart rootId := by decide
  have hid : PlainPart (DocumentId.ofRecordId id) := DocumentId.plainPart_ofRecordId id
  have hdocs : "roots/downloads/docs/" = "roots/" ++ rootId ++ "/docs/" := by decide +kernel
  obtain ⟨p, hplace, hr, hd⟩ : ∃ p, DocumentPath.parse path = .ok p ∧ p.rootId? = some rootId ∧
      p.documentId? = some (DocumentId.ofRecordId id) := by
    rw [placesOf, List.mem_pair, hdocs] at hpath
    rcases hpath with hpath | hpath <;> rw [hpath]
    · have hparse := DocumentPath.parse_display (DocumentPath.plain_document hroot hid)
      exact ⟨.document rootId (DocumentId.ofRecordId id), hparse, rfl, rfl⟩
    · have hparse := DocumentPath.parse_display (DocumentPath.plain_contents hroot hid)
      exact ⟨.contents rootId (DocumentId.ofRecordId id), hparse, rfl, rfl⟩
  have hnode : t.nodeAt store p rootId (DocumentId.ofRecordId id) = .ok n := by
    have hne : DocumentId.ofRecordId id ≠ rootDocumentId := by
      intro h
      have hchars := congrArg String.toList h
      rw [DocumentId.ofRecordId, String.toList_ofList] at hchars
      cases hchars
    have hcheck : checkRoot rootId = .ok () := if_pos rfl
    simp only [nodeAt, hcheck, if_neg hne, DocumentId.parse_ofRecordId hmin hmax]
    exact h
  rw [query, getType, hplace]
  exact ⟨by rw [t.fst_queryAt store words hr hd, hnode]; rfl,
    by rw [t.fst_typeAt store words hr hd, hnode]; rfl⟩

end Words

/-! ## The tree of a store -/

variable {s : Store}

/-- The node is made of the record that the store holds under the id. -/
def Shows (t : DocumentTree) (s : Store) (id : Int) (n : DocumentNode) : Prop :=
  ∃ x c, s.snapshot? id = .ok (some x) ∧ Record.ofSnapshot x = .ok c ∧ n = c.toNode t.labels

theorem found_eq_ok_iff {t : DocumentTree} {id : Int} {n : DocumentNode} :
    t.found s id = .ok n ↔ t.Shows s id n := by
  constructor
  · intro h
    unfold found at h
    rcases hx : RecordStore.snapshot? s id with e | x <;> simp only [hx] at h
    · cases h
    rcases hn : x.bind t.nodeOf? with _ | n' <;> rw [hn] at h <;> cases h
    obtain ⟨x, rfl, hnode⟩ := Option.bind_eq_some_iff.mp hn
    obtain ⟨c, hc, rfl⟩ := nodeOf?_eq_some.mp hnode
    exact ⟨x, c, hx, hc, rfl⟩
  · rintro ⟨x, c, hx, hc, rfl⟩
    have hsnapshot : RecordStore.snapshot? s id = .ok (some x) := hx
    simp only [found, hsnapshot, Option.bind_some, t.nodeOf?_of_ok hc]
    rfl

theorem shows_iff {t : DocumentTree} {id : Int} {n : DocumentNode} (h : s.Reachable) {r : Row}
    (hr : s.find? id = some r) (hreal : r.numFailed ≠ .real) :
    t.Shows s id n ↔ t.nodeOf? (s.view r) = some n := by
  rw [nodeOf?_eq_some]
  constructor
  · rintro ⟨x, c, hx, hc, hn⟩
    rw [h.snapshot?_of_find? hr hreal, Except.ok.injEq, Option.some.injEq] at hx
    exact ⟨c, hx ▸ hc, hn⟩
  · rintro ⟨c, hc, hn⟩
    exact ⟨s.view r, c, h.snapshot?_of_find? hr hreal, hc, hn⟩

theorem exists_shows_iff (t : DocumentTree) (id : Int) : (∃ n, t.Shows s id n) ↔ s.Builds id := by
  constructor
  · rintro ⟨n, x, c, hx, hc, -⟩
    exact ⟨x, c, hx, hc⟩
  · rintro ⟨x, c, hx, hc⟩
    exact ⟨_, x, c, hx, hc, rfl⟩

/-- The document id of a node is that of its download. -/
theorem Shows.documentId_eq {t : DocumentTree} {id : Int} {n : DocumentNode}
    (h : t.Shows s id n) : n.documentId = DocumentId.ofRecordId id := by
  obtain ⟨x, c, hx, hc, rfl⟩ := h
  have hid : c.id = id := Store.Reads.id_eq ⟨x, hx, hc⟩
  rw [← hid]
  rfl

/-- The nodes of the downloads that are shown, each beside its id. -/
def shownNodes (t : DocumentTree) (s : Store) : List (Int × DocumentNode) :=
  (s.rows.filter Row.isShown).filterMap fun r => (t.nodeOf? (s.view r)).map (r.id, ·)

section Shown

variable {t : DocumentTree} (h : s.Reachable)

include h

theorem mem_shownNodes (hreal : ∀ r ∈ s.rows.filter Row.isShown, r.numFailed ≠ .real) {id : Int}
    {n : DocumentNode} :
    (id, n) ∈ t.shownNodes s ↔
      (∃ r, s.find? id = some r ∧ r.visibleInUi ≠ .int 0) ∧ t.Shows s id n := by
  rw [shownNodes, List.mem_filterMap]
  constructor
  · rintro ⟨r, hr, hn⟩
    obtain ⟨n', hn', heq⟩ := Option.map_eq_some_iff.mp hn
    cases heq
    obtain ⟨hmem, hshown⟩ := List.mem_filter.mp hr
    have hfind : s.find? r.id = some r := h.ordered.find?_eq_some hmem
    exact ⟨⟨r, hfind, bne_iff_ne.mp hshown⟩, (shows_iff h hfind (hreal r hr)).mpr hn'⟩
  · rintro ⟨⟨r, hfind, hne⟩, hn⟩
    have hr : r ∈ s.rows.filter Row.isShown :=
      List.mem_filter.mpr ⟨Store.mem_of_find? hfind, bne_iff_ne.mpr hne⟩
    refine ⟨r, hr, ?_⟩
    rw [(shows_iff h hfind (hreal r hr)).mp hn, Store.id_of_find? hfind]
    rfl

theorem documentId_of_mem_shownNodes
    (hreal : ∀ r ∈ s.rows.filter Row.isShown, r.numFailed ≠ .real) :
    ∀ p ∈ t.shownNodes s, p.2.documentId = DocumentId.ofRecordId p.1 := by
  intro p hp
  exact ((mem_shownNodes h hreal).mp hp).2.documentId_eq

theorem pairwise_shownNodes : ((t.shownNodes s).map Prod.fst).Pairwise (· < ·) := by
  refine h.ordered.ascending.sublist ?_
  rw [shownNodes, List.map_filterMap]
  refine (filterMap_sublist_map ?_).trans (List.filter_sublist.map _)
  intro r _ id hid
  rw [Option.map_map] at hid
  obtain ⟨n, -, rfl⟩ := Option.map_eq_some_iff.mp hid
  rfl

/-- The root lists the nodes. -/
theorem fst_query_shownNodes {xs : List Snapshot} (hxs : s.visibleSnapshots = .ok xs)
    (words : RandomWords) :
    (t.query s "roots/downloads" words).1 =
      .ok (((t.shownNodes s).map Prod.snd).map .document) := by
  obtain ⟨-, hview⟩ := h.visibleSnapshots_eq_ok_iff.mp hxs
  have hnodes : xs.filterMap t.nodeOf? = (t.shownNodes s).map Prod.snd := by
    rw [hview, shownNodes, List.map_filterMap, List.filterMap_map]
    refine List.filterMap_congr fun r _ => ?_
    rw [Function.comp_apply]
    cases t.nodeOf? (s.view r) <;> rfl
  rw [← hnodes]
  exact t.fst_query_root_of_ok words hxs

end Shown

/-- **Navigation.** As long as the downloads of a store can be listed, the root of the tree lists
one node for each download that is shown and is a record, by ascending id and under different
document ids. Each node is what a query of its own place, and of the place of its contents, answers,
and its type is what a question about the type of these places answers. Such a question about any
path at all fails exactly if the query fails, with the same error. All this holds whatever the
random words are. -/
theorem navigation (t : DocumentTree) (h : s.Reachable) {xs : List Snapshot}
    (hxs : s.visibleSnapshots = .ok xs) :
    ∃ (ids : List Int) (nodes : List DocumentNode),
      (∀ words, (t.query s "roots/downloads" words).1 = .ok (nodes.map .document)) ∧
      ids.Pairwise (· < ·) ∧
      (∀ id, id ∈ ids ↔ (∃ r, s.find? id = some r ∧ r.visibleInUi ≠ .int 0) ∧ s.Builds id) ∧
      List.Forall₂ (t.Shows s) ids nodes ∧ (nodes.map (·.documentId)).Nodup ∧
      (∀ n ∈ nodes, ∀ path ∈ placesOf n.documentId, ∀ words,
        (t.query s path words).1 = .ok [.document n] ∧
          (t.getType s path words).1 = .ok n.mimeType) ∧
      ∀ path words words' e,
        (t.query s path words).1 = .error e ↔ (t.getType s path words').1 = .error e := by
  obtain ⟨hreal, -⟩ := h.visibleSnapshots_eq_ok_iff.mp hxs
  have hids : ((t.shownNodes s).map Prod.fst).Pairwise (· < ·) := pairwise_shownNodes h
  have hdocument := documentId_of_mem_shownNodes (t := t) h hreal
  refine ⟨_, _, fst_query_shownNodes h hxs, hids, ?_, ?_, ?_, ?_,
    fun path words words' e => t.query_eq_error_iff words hxs path words' e⟩
  · intro id
    rw [← exists_shows_iff t id]
    constructor
    · intro hid
      obtain ⟨p, hp, rfl⟩ := List.mem_map.mp hid
      obtain ⟨hrow, hn⟩ := (mem_shownNodes h hreal).mp hp
      exact ⟨hrow, p.2, hn⟩
    · rintro ⟨hrow, n, hn⟩
      exact List.mem_map.mpr ⟨(id, n), (mem_shownNodes h hreal).mpr ⟨hrow, hn⟩, rfl⟩
  · rw [List.forall₂_map_left_iff, List.forall₂_map_right_iff, List.forall₂_same]
    exact fun p hp => ((mem_shownNodes h hreal).mp hp).2
  · -- Document ids differ because the ids they print differ.
    have hmap : ((t.shownNodes s).map Prod.snd).map (·.documentId) =
        ((t.shownNodes s).map Prod.fst).map DocumentId.ofRecordId := by
      rw [List.map_map, List.map_map]
      exact List.map_congr_left hdocument
    rw [hmap]
    exact List.Nodup.map DocumentId.ofRecordId_injective (hids.imp Int.ne_of_lt)
  · intro n hn path hpath words
    obtain ⟨p, hp, rfl⟩ := List.mem_map.mp hn
    obtain ⟨⟨r, hr, -⟩, hshown⟩ := (mem_shownNodes h hreal).mp hp
    -- The id is read back from its text only if it has 64 bits.
    obtain ⟨hpos, hmax⟩ := h.id_inRange hr
    have hmin : minInt64 ≤ p.1 := Int.le_trans (by decide) (Int.le_of_lt hpos)
    rw [hdocument p hp] at hpath
    exact t.fst_query_placesOf words (found_eq_ok_iff.mpr hshown) hmin hmax hpath

end

/-- Three downloads, of which the second is hidden and the third is complete. -/
def partlyHiddenStore : Store :=
  .run .empty [.insert { uri := "https://example.com/a", title := some "a/b" } 0,
    .insert { uri := "https://example.com/b", visibleInUi := false } 0,
    .insert { uri := "https://example.com/c" } 0, .markSuccess 3 ⟨5, "c", some "image/png"⟩ 1]

theorem navigation_partlyHiddenStore :
    partlyHiddenStore.Reachable ∧
      ∃ (ids : List Int) (nodes : List DocumentNode), 1 ∈ ids ∧ 2 ∉ ids ∧ 3 ∈ ids ∧
        (query {} partlyHiddenStore "roots/downloads" ⟨[7], 0⟩).1 = .ok (nodes.map .document) ∧
        (∀ n ∈ nodes, n.documentId = "id:3" →
          (query {} partlyHiddenStore "roots/downloads/docs/id:3" ⟨[], 0⟩).1 = .ok [.document n] ∧
            (getType {} partlyHiddenStore "roots/downloads/docs/id:3" ⟨[], 0⟩).1 = .ok n.mimeType) ∧
        (getType {} partlyHiddenStore "roots/downloads/docs/id:4" ⟨[], 0⟩).1 =
          .error (.notFound (.download 4)) := by
  have hreach : partlyHiddenStore.Reachable := ⟨_, rfl⟩
  have hvisible : partlyHiddenStore.visibleSnapshots =
      .ok ((partlyHiddenStore.rows.filter Row.isShown).map partlyHiddenStore.view) := by
    decide +kernel
  obtain ⟨ids, nodes, hroot, -, hids, -, -, hplaces, herrors⟩ := navigation {} hreach hvisible
  have hlisted : ∀ id, (partlyHiddenStore.find? id).map (fun r => (r.visibleInUi, r.numFailed)) =
      some (.int 1, .int 0) → id ∈ ids := by
    intro id hcells
    obtain ⟨r, hr, heq⟩ := Option.map_eq_some_iff.mp hcells
    obtain ⟨hshown, hzero⟩ := Prod.mk.inj heq
    refine (hids id).mpr ⟨⟨r, hr, by rw [hshown]; decide⟩, ?_⟩
    exact (hreach.builds_iff hr (by rw [hzero]; decide)).mpr ⟨0, hzero, by decide⟩
  have hhidden : 2 ∉ ids := by
    intro h
    obtain ⟨⟨r, hr, hne⟩, -⟩ := (hids 2).mp h
    have hzero : (partlyHiddenStore.find? 2).map (·.visibleInUi) = some (.int 0) := by
      decide +kernel
    rw [hr, Option.map_some, Option.some.injEq] at hzero
    exact hne hzero
  refine ⟨hreach, ids, nodes, hlisted 1 (by decide +kernel), hhidden,
    hlisted 3 (by decide +kernel), hroot ⟨[7], 0⟩, ?_, (herrors _ ⟨[], 0⟩ _ _).mp ?_⟩
  · intro n hn hid
    refine hplaces n hn _ ?_ ⟨[], 0⟩
    rw [hid]
    decide +kernel
  · decide +kernel

end DocumentTree

end Downloads
