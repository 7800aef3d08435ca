import Downloads.Proofs.Documents.Deletion

/-!
# Requests to the document tree

A request is checked before anything else, from its texts alone (`DocumentTree.plan`). Only what
passes asks its surroundings, of which nothing is known (`DocumentCalls`). Run on a store, the
errands that are left answer what the tree answers (`DocumentTree.run_serve`), and none of them ends
in an error that is the client's fault. So such an error says nothing about the store, and only a
deletion that succeeds changes it (`DocumentTree.requests_answered`).
-/

namespace Downloads

/-- What a client may ask of the tree. -/
inductive DocumentRequest where
  | query (path : String)
  | getType (path : String)
  | openAs (path mode : String)
  | insert (path : String)
  | update (path : String)
  | delete (path : String)
  deriving Repr, DecidableEq

inductive DocumentAnswer where
  | rows (rows : List QueryRow)
  | mimeType (type : Option String)
  | payload (p : Payload)
  | deleted
  deriving Repr, DecidableEq

/-- What is left of a request once it was checked. -/
inductive Errand where
  | answer (a : DocumentAnswer)
  | list
  | node (id : Int) (view : DocumentNode → DocumentAnswer)
  | payload (id : Int)
  | delete (id : Int)

/-- What requests may ask of their surroundings: the store, the random words and the files. -/
structure DocumentCalls (m : Type → Type) where
  snapshot? (id : Int) : m (Except StoreError (Option Snapshot))
  visibleSnapshots : m (Except StoreError (List Snapshot))
  delete (id : Int) : m (Except StoreError Unit)
  jitter : m Nat
  find (path : String) : m (Except FileFault FileNode)

/-- The record of a snapshot, for which a jitter is drawn. -/
def DocumentCalls.build {m : Type → Type} [Monad m] (c : DocumentCalls m) (x : Snapshot) :
    m (Except RecordError Record) :=
  match Record.ofSnapshot x with
  | .error e => pure (.error e)
  | .ok r => do return .ok { r with jitterFuzz := ← c.jitter }

namespace DocumentError

theorem isClientError_ofStore (e : StoreError) : (ofStore e).isClientError = false := by
  cases e <;> rfl

theorem isClientError_ofPayload (e : PayloadError) : (ofPayload e).isClientError = false := by
  cases e with
  | store e => exact isClientError_ofStore e
  | notFound | file => rfl

end DocumentError

namespace DocumentTree

/-! ## Checks and errands -/

/-- What is left of a question about a place that names a document. -/
def planAt (t : DocumentTree) (view : DocumentNode → DocumentAnswer) (path : DocumentPath)
    (r d : String) : Except DocumentError Errand := do
  checkRoot r
  if d = rootDocumentId then
    match path with
    | .contents .. => throw (.unsupportedOperation .contents path.display)
    | _ => return .answer (view (DocumentNode.directory rootDocumentId t.rootTitle))
  else
    return .node (← DocumentId.parse d) view

/-- What is left of a question about any place, given what is left of it above the documents. -/
def planPlace (t : DocumentTree) (top root : Errand) (view : DocumentNode → DocumentAnswer) :
    DocumentPath → Except DocumentError Errand
  | .roots => .ok top
  | .root r => (checkRoot r).map fun _ => root
  | .document r d => t.planAt view (.document r d) r d
  | .contents r d => t.planAt view (.contents r d) r d

def planQuery (t : DocumentTree) : DocumentPath → Except DocumentError Errand :=
  t.planPlace (.answer (.rows [.root t.root])) .list fun n => .rows [.document n]

def planType (t : DocumentTree) : DocumentPath → Except DocumentError Errand :=
  t.planPlace (.answer (.mimeType (some directoryMimeType)))
    (.answer (.mimeType (some directoryMimeType))) fun n => .mimeType n.mimeType

/-- What is left of a request, or why it is refused. -/
def plan (t : DocumentTree) : DocumentRequest → Except DocumentError Errand
  | .query path => (DocumentPath.parse path).bind t.planQuery
  | .getType path => (DocumentPath.parse path).bind t.planType
  | .openAs path mode => (checkOpen path mode).map .payload
  | .insert path => .error (DocumentTree.insert path)
  | .update path => .error (DocumentTree.update path)
  | .delete path => ((DocumentPath.parse path).bind (targetOf .delete)).map .delete

section Serve

variable {m : Type → Type} [Monad m] [Url.HostNames]

def nodesIn (t : DocumentTree) (c : DocumentCalls m) : List Snapshot → m (List DocumentNode)
  | [] => pure []
  | x :: xs => do
    let r ← c.build x
    let ns ← t.nodesIn c xs
    return (r.toOption.map (·.toNode t.labels)).toList ++ ns

def perform (t : DocumentTree) (c : DocumentCalls m) :
    Errand → m (Except DocumentError DocumentAnswer)
  | .answer a => pure (.ok a)
  | .list => do
    match ← c.visibleSnapshots with
    | .error e => return .error (.ofStore e)
    | .ok xs => return .ok (.rows ((← t.nodesIn c xs).map .document))
  | .node id view => do
    match ← c.snapshot? id with
    | .error e => return .error (.ofStore e)
    | .ok none => return .error (.notFound (.download id))
    | .ok (some x) =>
      match ← c.build x with
      | .error _ => return .error (.notFound (.download id))
      | .ok r => return .ok (view (r.toNode t.labels))
  | .payload id => do
    match ← c.snapshot? id with
    | .error e => return .error (.ofPayload (.store e))
    | .ok none => return .error (.ofPayload (.notFound id))
    | .ok (some x) =>
      match ← c.build x with
      | .error _ => return .error (.ofPayload (.notFound id))
      | .ok r =>
        match Payload.path? r with
        | none => return .error (.ofPayload (.notFound id))
        | some path =>
          return ((Payload.ofLookup id path (← c.find path)).mapError .ofPayload).map .payload
  | .delete id => do
    match ← c.delete id with
    | .error e => return .error (.ofStore e)
    | .ok () => return .ok .deleted

def follow (t : DocumentTree) (c : DocumentCalls m) :
    Except DocumentError Errand → m (Except DocumentError DocumentAnswer)
  | .error e => pure (.error e)
  | .ok x => t.perform c x

/-- Checks a request, and then runs its errand. -/
def serve (t : DocumentTree) (c : DocumentCalls m) (q : DocumentRequest) :
    m (Except DocumentError DocumentAnswer) := t.follow c (t.plan q)

end Serve

/-! ## Requests on a store -/

section OnStore

variable {σ : Type} [RecordStore σ]

/-- The store, the random words and the files as surroundings. -/
def onStore (files : Files) : DocumentCalls (StateM (σ × RandomWords)) where
  snapshot? id := fun (store, words) => (RecordStore.snapshot? store id, store, words)
  visibleSnapshots := fun (store, words) => (RecordStore.visibleSnapshots store, store, words)
  delete id := fun (store, words) =>
    match RecordStore.delete store id with
    | .error e => (.error e, store, words)
    | .ok store => (.ok (), store, words)
  jitter := fun (store, words) => (words.drawJitter.1, store, words.drawJitter.2)
  find path := fun state => (files.find path, state)

/-- What the tree answers to a request, and the store and the random words after it. -/
def respond [Url.HostNames] (t : DocumentTree) (files : Files) (store : σ) (words : RandomWords) :
    DocumentRequest → Except DocumentError DocumentAnswer × σ × RandomWords
  | .query path =>
    let (rows, words) := t.query store path words
    (rows.map .rows, store, words)
  | .getType path =>
    let (type, words) := t.getType store path words
    (type.map .mimeType, store, words)
  | .openAs path mode =>
    let (p, words) := openDocument store files path mode words
    (p.map .payload, store, words)
  | .insert path => (.error (DocumentTree.insert path), store, words)
  | .update path => (.error (DocumentTree.update path), store, words)
  | .delete path =>
    match delete store path with
    | .error e => (.error e, store, words)
    | .ok store => (.ok .deleted, store, words)

variable [Url.HostNames] (t : DocumentTree) (files : Files) (store : σ) (words : RandomWords)

omit [Url.HostNames] in
/-- A program goes on with the answer and the state that its first part leaves. -/
theorem run_bind_eq {S α β : Type} {x : StateM S α} {a : α} {st st' : S} (h : x.run st = (a, st'))
    (f : α → StateM S β) : (x >>= f).run st = (f a).run st' := by
  rw [StateT.run_bind, h]
  rfl

omit [Url.HostNames] in
theorem run_build (x : Snapshot) :
    ((onStore files).build x).run (store, words) =
      ((Record.build x words).1, store, (Record.build x words).2) := by
  unfold DocumentCalls.build Record.build
  rcases Record.ofSnapshot x with e | r <;> rfl

theorem run_nodesIn (xs : List Snapshot) :
    (t.nodesIn (onStore files) xs).run (store, words) =
      ((t.nodes xs words).1, store, (t.nodes xs words).2) := by
  induction xs generalizing words with
  | nil => rfl
  | cons x xs ih =>
    rw [nodesIn, run_bind_eq (run_build files store words x), run_bind_eq (ih _), nodes, node?]
    rcases Record.build x words with ⟨e | r, words'⟩ <;> rfl

/-! ## Errands on a store -/

theorem run_perform_list :
    (t.perform (onStore files) .list).run (store, words) =
      ((t.listing store words).1.map fun ns => .rows (ns.map .document), store,
        (t.listing store words).2) := by
  have hcall : (onStore files).visibleSnapshots.run (store, words) =
      (RecordStore.visibleSnapshots store, store, words) := rfl
  rw [perform, run_bind_eq hcall, listing]
  rcases RecordStore.visibleSnapshots store with e | xs
  · rfl
  · exact run_bind_eq (run_nodesIn t files store words xs) _

theorem run_perform_node (id : Int) (view : DocumentNode → DocumentAnswer) :
    (t.perform (onStore files) (.node id view)).run (store, words) =
      ((t.download store id words).1.map view, store, (t.download store id words).2) := by
  have hcall : ((onStore files).snapshot? id).run (store, words) =
      (RecordStore.snapshot? store id, store, words) := rfl
  rw [perform, run_bind_eq hcall, download]
  rcases RecordStore.snapshot? store id with e | _ | x
  · rfl
  · rfl
  · refine (run_bind_eq (run_build files store words x) _).trans ?_
    simp only [node?]
    rcases Record.build x words with ⟨e | r, words'⟩ <;> rfl

theorem run_perform_payload (id : Int) :
    (t.perform (onStore files) (.payload id)).run (store, words) =
      (((Payload.openFor store files id words).1.mapError .ofPayload).map .payload, store,
        (Payload.openFor store files id words).2) := by
  have hcall : ((onStore files).snapshot? id).run (store, words) =
      (RecordStore.snapshot? store id, store, words) := rfl
  rw [perform, run_bind_eq hcall, Payload.openFor, Payload.locate]
  rcases RecordStore.snapshot? store id with e | _ | x
  · rfl
  · rfl
  · refine (run_bind_eq (run_build files store words x) _).trans ?_
    simp only
    rcases Record.build x words with ⟨e | r, words'⟩
    · rfl
    · simp only
      rcases Payload.path? r with _ | path <;> rfl

theorem run_perform_delete (id : Int) :
    (t.perform (onStore files) (.delete id)).run (store, words) =
      match RecordStore.delete store id with
      | .error e => (.error (.ofStore e), store, words)
      | .ok store => (.ok .deleted, store, words) := by
  have hcall : ((onStore files).delete id).run (store, words) =
      match RecordStore.delete store id with
      | .error e => (.error e, store, words)
      | .ok store => (.ok (), store, words) := rfl
  rcases hdelete : RecordStore.delete store id with e | store' <;> rw [hdelete] at hcall <;>
    exact run_bind_eq hcall _

/-! ## Requests as checks and errands -/

omit [Url.HostNames] in
theorem openDocument_eq (path mode : String) :
    openDocument store files path mode words =
      match checkOpen path mode with
      | .error e => (.error e, words)
      | .ok id => ((Payload.openFor store files id words).1.mapError .ofPayload,
          (Payload.openFor store files id words).2) := by
  unfold openDocument locate Payload.openFor
  rcases checkOpen path mode with e | id
  · rfl
  · simp only
    rcases Payload.locate store id words with ⟨e | path, words'⟩ <;> rfl

theorem run_planAt (view : DocumentNode → DocumentAnswer) (path : DocumentPath) (r d : String) :
    (t.follow (onStore files) (t.planAt view path r d)).run (store, words) =
      match checkRoot r with
      | .error e => (.error e, store, words)
      | .ok () => ((t.document store path d words).1.map view, store,
          (t.document store path d words).2) := by
  -- Both sides make the same checks in the same order, and stop at the first that fails.
  unfold planAt document
  rcases checkRoot r with e | u
  · rfl
  by_cases hd : d = rootDocumentId
  · simp only [if_pos hd]
    cases path <;> rfl
  · simp only [if_neg hd]
    rcases DocumentId.parse d with e | id
    · rfl
    · exact t.run_perform_node files store words id view

theorem run_planQuery (p : DocumentPath) :
    (t.follow (onStore files) (t.planQuery p)).run (store, words) =
      ((t.queryAt store p words).1.map .rows, store, (t.queryAt store p words).2) := by
  cases p with
  | roots => rfl
  | root r =>
    simp only [planQuery, planPlace, queryAt]
    rcases checkRoot r with e | u
    · rfl
    · refine (t.run_perform_list files store words).trans ?_
      rcases t.listing store words with ⟨e | ns, words'⟩ <;> rfl
  | document r d | contents r d =>
    rw [planQuery, planPlace, run_planAt]
    simp only [queryAt]
    rcases checkRoot r with e | u
    · rfl
    · rcases t.document store _ d words with ⟨e | n, words'⟩ <;> rfl

theorem run_planType (p : DocumentPath) :
    (t.follow (onStore files) (t.planType p)).run (store, words) =
      ((t.typeAt store p words).1.map .mimeType, store, (t.typeAt store p words).2) := by
  cases p with
  | roots => rfl
  | root r =>
    simp only [planType, planPlace, typeAt]
    rcases checkRoot r with e | u <;> rfl
  | document r d | contents r d =>
    rw [planType, planPlace, run_planAt]
    simp only [typeAt]
    rcases checkRoot r with e | u
    · rfl
    · rcases t.document store _ d words with ⟨e | n, words'⟩ <;> rfl

/-- **Serving a store.** A program that first checks a request, and then calls its surroundings,
answers what the tree answers, and leaves the store and the random words that the tree leaves. -/
theorem run_serve (q : DocumentRequest) :
    (t.serve (onStore files) q).run (store, words) = t.respond files store words q := by
  cases q with
  | insert path | update path => rfl
  | query path =>
    simp only [serve, plan, respond, query]
    rcases DocumentPath.parse path with e | p
    · rfl
    · exact t.run_planQuery files store words p
  | getType path =>
    simp only [serve, plan, respond, getType]
    rcases DocumentPath.parse path with e | p
    · rfl
    · exact t.run_planType files store words p
  | openAs path mode =>
    simp only [serve, plan, respond, openDocument_eq]
    rcases checkOpen path mode with e | id
    · rfl
    · exact t.run_perform_payload files store words id
  | delete path =>
    simp only [serve, plan, respond, delete]
    rcases DocumentPath.parse path with e | p
    · rfl
    simp only [bind, Except.bind]
    rcases targetOf .delete p with e | id
    · rfl
    · refine (t.run_perform_delete files store words id).trans ?_
      simp only
      cases RecordStore.delete store id <;> rfl

/-! ## Errors -/

variable {t files store words} {q : DocumentRequest} {e : DocumentError}

/-- An errand does not end in an error that is the client's fault. -/
theorem isClientError_of_perform (x : Errand)
    (h : ((t.perform (onStore files) x).run (store, words)).1 = .error e) :
    e.isClientError = false := by
  cases x with
  | answer a => cases h
  | list =>
    rw [run_perform_list] at h
    rcases hxs : RecordStore.visibleSnapshots store with e' | xs <;>
      simp only [listing, hxs] at h <;> cases h
    exact DocumentError.isClientError_ofStore e'
  | node id view =>
    rw [run_perform_node, map_eq_error_iff, fst_download, found] at h
    rcases hx : RecordStore.snapshot? store id with e' | x <;> simp only [hx] at h
    · cases h
      exact DocumentError.isClientError_ofStore e'
    · rcases hn : x.bind t.nodeOf? with _ | n <;> rw [hn] at h <;> cases h
      rfl
  | payload id =>
    rw [run_perform_payload, map_eq_error_iff] at h
    rcases hp : Payload.openFor store files id words with ⟨e' | p, words'⟩ <;> rw [hp] at h <;>
      cases h
    exact DocumentError.isClientError_ofPayload e'
  | delete id =>
    rw [run_perform_delete] at h
    rcases hdelete : RecordStore.delete store id with e' | store' <;> rw [hdelete] at h <;> cases h
    exact DocumentError.isClientError_ofStore e'

/-- An error that is the client's fault comes from the checks. -/
theorem plan_of_isClientError (h : (t.respond files store words q).1 = .error e)
    (he : e.isClientError = true) : t.plan q = .error e := by
  rw [← run_serve, serve] at h
  rcases hplan : t.plan q with e' | x <;> rw [hplan] at h
  · cases h
    rfl
  · rw [isClientError_of_perform x h] at he
    cases he

theorem respond_of_plan (h : t.plan q = .error e) (files : Files) (store : σ)
    (words : RandomWords) : t.respond files store words q = (.error e, store, words) := by
  rw [← run_serve, serve, h]
  rfl

end OnStore

/-! ## Calls -/

theorem planAt_ne_delete (t : DocumentTree) (view : DocumentNode → DocumentAnswer)
    (path : DocumentPath) (r d : String) (id : Int) :
    t.planAt view path r d ≠ .ok (.delete id) := by
  unfold planAt
  rcases checkRoot r with e | u
  · exact nofun
  by_cases hd : d = rootDocumentId
  · simp only [if_pos hd]
    cases path <;> exact nofun
  · simp only [if_neg hd]
    rcases DocumentId.parse d with e | i <;> exact nofun

theorem planPlace_ne_delete (t : DocumentTree) {top root : Errand}
    (view : DocumentNode → DocumentAnswer) (p : DocumentPath) {id : Int} (htop : top ≠ .delete id)
    (hroot : root ≠ .delete id) : t.planPlace top root view p ≠ .ok (.delete id) := by
  cases p with
  | roots => exact fun h => htop (Except.ok.inj h)
  | root r =>
    rw [planPlace]
    rcases checkRoot r with e | u
    · exact nofun
    · exact fun h => hroot (Except.ok.inj h)
  | document r d | contents r d =>
    rw [planPlace]
    exact t.planAt_ne_delete view _ r d id

/-- Only a request to delete ends in a deletion. -/
theorem plan_ne_delete (t : DocumentTree) {q : DocumentRequest} (hq : ∀ path, q ≠ .delete path)
    (id : Int) : t.plan q ≠ .ok (.delete id) := by
  cases q with
  | insert | update => exact nofun
  | delete path => exact absurd rfl (hq path)
  | openAs path mode =>
    rw [plan]
    cases checkOpen path mode <;> exact nofun
  | query path | getType path =>
    rw [plan]
    rcases DocumentPath.parse path with e | p
    · exact nofun
    · exact t.planPlace_ne_delete _ p nofun nofun

section Calls

variable {m : Type → Type} [Monad m] [Url.HostNames] (t : DocumentTree) (c : DocumentCalls m)
  (d : Int → m (Except StoreError Unit))

theorem nodesIn_with_delete (xs : List Snapshot) :
    t.nodesIn { c with delete := d } xs = t.nodesIn c xs := by
  induction xs with
  | nil => rfl
  | cons x xs ih =>
    rw [nodesIn, ih]
    rfl

theorem perform_with_delete {x : Errand} (hx : ∀ id, x ≠ .delete id) :
    t.perform { c with delete := d } x = t.perform c x := by
  cases x with
  | delete id => exact absurd rfl (hx id)
  | answer | node | payload => rfl
  | list =>
    simp only [perform, nodesIn_with_delete]

/-- A request that is none to delete makes no use of the call that deletes. -/
theorem serve_with_delete {q : DocumentRequest} (hq : ∀ path, q ≠ .delete path) :
    t.serve { c with delete := d } q = t.serve c q := by
  unfold serve
  rcases hplan : t.plan q with e | x
  · rfl
  · refine t.perform_with_delete c d fun id hx => ?_
    exact t.plan_ne_delete hq id (hx ▸ hplan)

end Calls

theorem serve_of_plan [Url.HostNames] {m : Type → Type} [Monad m] {t : DocumentTree}
    {q : DocumentRequest} {e : DocumentError} (h : t.plan q = .error e) (c : DocumentCalls m) :
    t.serve c q = pure (.error e) := by
  rw [serve, h]
  rfl

/-- A mode that does not parse, and a mode that writes, are refused alike. -/
theorem checkOpen_of_ne {mode : String} (h : mode ≠ OpenMode.read.text) (path : String) :
    checkOpen path mode = .error (.unsupportedMode mode) := by
  rcases hmode : OpenMode.all.find? fun m => m.text == mode with _ | m
  · simp only [checkOpen, OpenMode.parse, hmode]
    rfl
  · have htext : m.text = mode := by simpa using List.find?_some hmode
    have hread : m.isReadOnly = false := by
      rw [OpenMode.isReadOnly, beq_eq_false_iff_ne]
      rintro rfl
      exact h htext.symm
    simp only [checkOpen, OpenMode.parse, hmode, bind, Except.bind, hread, htext]
    rfl

/-! ## Requests on a store that came about by calls -/

variable {s : Store} {id : Int}

/-- The path leads to the document of a download. -/
def Names (path : String) (id : Int) : Prop :=
  ∃ p d, DocumentPath.parse path = .ok p ∧ p.rootId? = some rootId ∧ p.documentId? = some d ∧
    DocumentId.parse d = .ok id

theorem names_of_targetOf {path : String} {p : DocumentPath} {op : DocumentOperation}
    (hp : DocumentPath.parse path = .ok p) (h : targetOf op p = .ok id) : Names path id := by
  cases p with
  | roots | root r => cases h
  | document r d | contents r d =>
    simp only [targetOf, checkRoot, bind, Except.bind] at h
    split at h
    · cases h
    rename_i hroot
    split at hroot <;> cases hroot
    rename_i hr
    split at h
    · cases h
    · exact ⟨_, d, hp, congrArg some hr, rfl, h⟩

theorem respond_delete_eq_ok [Url.HostNames] {t : DocumentTree} {files : Files}
    {words : RandomWords} {path : String} {a : DocumentAnswer}
    (h : (t.respond files s words (.delete path)).1 = .ok a) :
    a = .deleted ∧ ∃ id, Names path id ∧
      s.delete id = .ok (t.respond files s words (.delete path)).2.1 := by
  rcases hdelete : delete s path with e | s' <;> simp only [respond, hdelete] at h ⊢ <;> cases h
  refine ⟨rfl, ?_⟩
  simp only [delete, bind, Except.bind] at hdelete
  rcases hp : DocumentPath.parse path with e | p <;> simp only [hp] at hdelete
  · cases hdelete
  rcases hid : targetOf .delete p with e | id <;> simp only [hid] at hdelete
  · cases hdelete
  have hstore : (s.delete id).mapError DocumentError.ofStore = .ok s' := hdelete
  refine ⟨id, names_of_targetOf hp hid, ?_⟩
  rcases hs : s.delete id with e | s'' <;> rw [hs] at hstore <;> cases hstore
  rfl

/-- **Requests.** Whatever a client asks of a store that came about by calls, the answer comes from
a program that checks the request and then calls the store, the random words and the files. It calls
for a deletion only when asked to delete, and only a deletion that succeeds changes the store: it
removes the one download that the path names, and the listing after it is the one before it without
the node of that download. Where the client is at fault, the program calls nothing in whatever
surroundings it runs, and so the answer is the same for every store, and no random words are taken.
A document is refused for every mode but that of reading, whatever the path is. -/
theorem requests_answered [Url.HostNames] (t : DocumentTree) (files : Files) (h : s.Reachable)
    (words : RandomWords) (q : DocumentRequest) :
    let answer := (t.respond files s words q).1
    let s' := (t.respond files s words q).2.1
    (t.serve (onStore files) q).run (s, words) = t.respond files s words q ∧
      ((∀ path, q ≠ .delete path) → ∀ (m : Type → Type) [Monad m] (c : DocumentCalls m)
        (d : Int → m (Except StoreError Unit)), t.serve { c with delete := d } q = t.serve c q) ∧
      (s' ≠ s → ∃ path, q = .delete path ∧ answer = .ok .deleted) ∧
      (∀ path, q = .delete path → answer.isOk = true → ∃ id, Names path id ∧ s.Removes id s' ∧
        ∀ w (ns : List DocumentNode), (t.query s "roots/downloads" w).1 = .ok (ns.map .document) →
          ∀ w', (t.query s' "roots/downloads" w').1 =
            .ok ((ns.filter fun n => n.documentId != DocumentId.ofRecordId id).map .document)) ∧
      (∀ e, answer = .error e → e.isClientError = true →
        (∀ (m : Type → Type) [Monad m] (c : DocumentCalls m), t.serve c q = pure (.error e)) ∧
        ∀ (τ : Type) [RecordStore τ] (other : τ) (files' : Files) (words' : RandomWords),
          t.respond files' other words' q = (.error e, other, words')) ∧
      ∀ path mode, q = .openAs path mode → mode ≠ "r" →
        ∀ (m : Type → Type) [Monad m] (c : DocumentCalls m),
          t.serve c q = pure (.error (.unsupportedMode mode)) := by
  intro answer s'
  refine ⟨t.run_serve files s words q, fun hq m _ c d => t.serve_with_delete c d hq, ?_, ?_, ?_, ?_⟩
  · intro hne
    cases q with
    | query | getType | openAs | insert | update => exact absurd rfl hne
    | delete path =>
      refine ⟨path, rfl, ?_⟩
      rcases hanswer : answer with e | a
      · -- A deletion that fails leaves the store it was given.
        have hsame : s' = s := by
          rcases hdelete : delete s path with e' | s'' <;>
            simp only [answer, s', respond, hdelete] at hanswer ⊢
          cases hanswer
        exact absurd hsame hne
      · rw [(respond_delete_eq_ok hanswer).1]
  · rintro path rfl hok
    obtain ⟨a, hanswer⟩ : ∃ a, answer = .ok a := by
      rcases hanswer : answer with e | a
      · rw [hanswer] at hok
        cases hok
      · exact ⟨a, rfl⟩
    obtain ⟨-, id, hnames, hdelete⟩ := respond_delete_eq_ok hanswer
    exact ⟨id, hnames, h.removes_of_delete hdelete, fun w ns hns => query_of_delete h hdelete hns⟩
  · intro e he hclient
    have hplan : t.plan q = .error e := plan_of_isClientError he hclient
    exact ⟨fun m _ c => serve_of_plan hplan c,
      fun τ _ other files' words' => respond_of_plan hplan files' other words'⟩
  · rintro path mode rfl hmode m _ c
    refine serve_of_plan ?_ c
    rw [plan, checkOpen_of_ne hmode path]
    rfl

theorem requests_answered_partlyHiddenStore :
    partlyHiddenStore.Reachable ∧
      (∃ id, Names "roots/downloads/docs/id:1" id ∧
        partlyHiddenStore.Removes id (respond {} .empty partlyHiddenStore ⟨[7], 0⟩
          (.delete "roots/downloads/docs/id:1")).2.1) ∧
      (∀ (m : Type → Type) [Monad m] (c : DocumentCalls m),
        serve {} c (.query "roots/downloads/docs/id:+1") =
          pure (.error (.invalidDocumentId "id:+1"))) ∧
      ∀ (m : Type → Type) [Monad m] (c : DocumentCalls m),
        serve {} c (.openAs "//" "rw") = pure (.error (.unsupportedMode "rw")) := by
  have hreach : partlyHiddenStore.Reachable := ⟨_, rfl⟩
  obtain ⟨-, -, -, hdeleted, -⟩ := requests_answered {} .empty hreach ⟨[7], 0⟩
    (.delete "roots/downloads/docs/id:1")
  obtain ⟨-, -, -, -, hrefused, -⟩ := requests_answered {} .empty hreach ⟨[7], 0⟩
    (.query "roots/downloads/docs/id:+1")
  obtain ⟨-, -, -, -, -, hmode⟩ := requests_answered {} .empty hreach ⟨[7], 0⟩ (.openAs "//" "rw")
  obtain ⟨id, hnames, hremoves, -⟩ := hdeleted _ rfl (by decide +kernel)
  exact ⟨hreach, ⟨id, hnames, hremoves⟩, (hrefused _ (by decide +kernel) rfl).1,
    hmode _ _ rfl (by decide)⟩

end DocumentTree

end Downloads
