import Downloads.Proofs.Store.Sound

/-!
# Calls as statements

A call on the store checks its arguments and runs statements of a database, some of them in a
transaction. The engine may refuse any statement, in the middle of a transaction too. A session says
what a call does statement by statement (`Operation.session`). What a session comes to is put
together from its statements: the answer if none of them is refused (`Session.Performs`), and the
store if it fails (`Session.FailsTo`).
-/

namespace Downloads

/-- A store, and what the engine does with the statements to come: it refuses one, or lets it pass.
Past the end of the list every statement passes. -/
structure Database where
  store : Store
  refusals : List (Option Refusal) := []
  deriving Repr, DecidableEq

/-- Statements one after the other: an answer or an error, and the database they leave. -/
abbrev Session (α : Type) := EStateM StoreError Database α

namespace Session

variable {α β : Type}

/-- One statement. It changes the store as a whole or not at all. -/
def statement (f : Store → Except DatabaseError (α × Store)) : Session α := fun db =>
  match db.refusals.head?.join with
  | some r => .error (.database (.refused r)) { db with refusals := db.refusals.tail }
  | none =>
    match f db.store with
    | .error e => .error (.database e) { db with refusals := db.refusals.tail }
    | .ok (a, store) => .ok a ⟨store, db.refusals.tail⟩

/-- A statement that changes nothing, such as the first and the last of a transaction. -/
def pass : Session Unit := statement fun s => .ok ((), s)

/-- Statements that take effect together. If one fails, the store is as it was before the first. -/
def transaction (x : Session α) : Session α := fun db =>
  match (do pass; let a ← x; pass; return a : Session α) db with
  | .ok a db => .ok a db
  | .error e db' => .error e { db' with store := db.store }

/-- Goes on if a check succeeds. -/
def require (check : Except StoreError Unit) : Session Unit := fun db =>
  match check with
  | .ok () => .ok () db
  | .error e => .error e db

/-! ## The statements -/

/-- Changes the rows that pass a test, and gives their number. -/
def updateRows (p : Row → Bool) (change : Row → Row) : Session Nat :=
  statement fun s =>
    .ok (s.rows.countP p, { s with rows := s.rows.map fun r => if p r then change r else r })

/-- Adds a row under a new id. -/
def insertRow (d : NewDownload) (now : Int) : Session Int :=
  statement fun s =>
    match s.nextId with
    | .error _ => .error (.refused .full)
    | .ok id => .ok (id, s.addRow (d.row id now))

/-- Adds a header, which has to point to a row. -/
def insertHeader (id : Int) (name value : String) : Session Unit :=
  statement fun s =>
    if (s.find? id).isSome then .ok ((), { s with headers := s.headers ++ [⟨id, name, value⟩] })
    else .error (.refused .referenced)

/-- Adds a header for each row with the id, and gives their number. -/
def insertHeaders (id : Int) (name value : String) : Session Nat :=
  statement fun s =>
    let n := s.rows.countP fun r => r.id == id
    .ok (n, { s with headers := s.headers ++ List.replicate n ⟨id, name, value⟩ })

/-- Removes the headers of a download. -/
def deleteHeaders (id : Int) : Session Unit :=
  statement fun s => .ok ((), { s with headers := s.headers.filter fun h => h.download != id })

/-- Removes the rows with the id, and gives their number. -/
def deleteRows (id : Int) : Session Nat :=
  statement fun s =>
    .ok (s.rows.countP fun r => r.id == id, { s with rows := s.rows.filter fun r => r.id != id })

/-- The packed retry field of a download, none if it does not exist. -/
def selectRetry (id : Int) : Session (Option Int) :=
  statement fun s =>
    match s.find? id with
    | none => .ok (none, s)
    | some r => r.retryRedirect.readInt.map fun n => (some n, s)

/-- A download that no row was changed for does not exist. -/
def checkAffected (id : Int) (n : Nat) : Session Unit :=
  require (if n = 0 then .error (.notFound id) else .ok ())

/-! ## Calls -/

/-- Changes the row of a download, which has to exist. -/
def updateRow (id : Int) (change : Row → Row) : Session Outcome := do
  checkAffected id (← updateRows (fun r => r.id == id) change)
  return .done

/-- Changes the row of a download by its packed retry field. -/
def updateRetry (id : Int) (change : Nat × Nat → Row → Row) (answer : Nat × Nat → Outcome) :
    Session Outcome :=
  transaction do
    match ← selectRetry id with
    | none => throw (.notFound id)
    | some n =>
      let _ ← updateRows (fun r => r.id == id) (change (PackedRetry.unpack n))
      return answer (PackedRetry.unpack n)

end Session

open Session in
/-- The statements of a call. -/
def Operation.session [Url.HostNames] : Operation → Session Outcome
  | .insert d now => do
    require d.check
    transaction do
      let id ← insertRow d now
      d.headers.forM fun h => insertHeader id h.1 h.2
      return .inserted id
  | .addHeader id name value => do
    require (Store.checkHeaderName name)
    checkAffected id (← insertHeaders id name value)
    return .done
  | .delete id => transaction do
    deleteHeaders id
    checkAffected id (← deleteRows id)
    return .done
  | .setControl id control now => updateRow id (·.withControl control now)
  | .markRunning id now => updateRow id (·.withStatus .running now)
  | .markWaiting id now => updateRow id (·.withStatus .runningPaused now)
  | .markPausedForRetry id retryAfter now =>
    updateRetry id (fun p r => r.pausedForRetry (PackedRetry.pack (retryAfter.getD 0) p.2) now)
      fun _ => .done
  | .recordRedirect id =>
    let next := fun p : Nat × Nat => (p.2 + 1) % (PackedRetry.maxRedirects + 1)
    updateRetry id (fun p r => r.withRetry (PackedRetry.pack p.1 (next p))) fun p =>
      .redirects (next p)
  | .markFailed id code now => do
    require (Store.checkFailureCode code)
    updateRow id (·.failed code now)
  | .markSuccess id payload now => updateRow id (·.succeeded payload now)
  | .updateProgress id current total => updateRow id (·.withProgress current total)
  | .claimCompletionNotice id => do
    let n ← updateRows (fun r => r.id == id && r.completionNotified == .int 0) Row.claimed
    return .claimed (0 < n)

/-! ## What sessions do -/

namespace Session

variable {α β : Type} {x : Session α} {s : Store} {result : Except StoreError (α × Store)}

/-- Run on a store, a session gives the result, unless the engine refuses one of its statements. -/
structure Performs (x : Session α) (s : Store) (result : Except StoreError (α × Store)) : Prop where
  ok : ∀ refusals a db, x ⟨s, refusals⟩ = .ok a db →
    result = .ok (a, db.store) ∧ db.refusals ⊆ refusals
  error : ∀ refusals e db, x ⟨s, refusals⟩ = .error e db →
    result = .error e ∨ ∃ r, some r ∈ refusals ∧ e = .database (.refused r)

/-- If it fails for any reason, a session leaves a certain store. -/
def FailsTo (x : Session α) (s t : Store) : Prop :=
  ∀ refusals e db, x ⟨s, refusals⟩ = .error e db → db.store = t

theorem bind_ok {y : α → Session β} {db db' : Database} {a : α} (h : x db = .ok a db') :
    (x >>= y) db = y a db' := by
  simp only [bind, EStateM.bind, h]

theorem bind_error {y : α → Session β} {db db' : Database} {e : StoreError}
    (h : x db = .error e db') : (x >>= y) db = .error e db' := by
  simp only [bind, EStateM.bind, h]

theorem Performs.bind {y : α → Session β} {g : α → Store → Except StoreError (β × Store)}
    (hx : Performs x s result) (hy : ∀ a s', result = .ok (a, s') → Performs (y a) s' (g a s')) :
    Performs (x >>= y) s (result.bind fun p => g p.1 p.2) := by
  constructor
  · intro refusals b db hb
    rcases hrun : x ⟨s, refusals⟩ with ⟨a, db'⟩ | ⟨e, db'⟩
    · obtain ⟨hresult, hsub⟩ := hx.ok _ _ _ hrun
      rw [bind_ok hrun] at hb
      obtain ⟨hnext, hsub'⟩ := (hy a db'.store hresult).ok _ _ _ hb
      exact ⟨by rw [hresult]; exact hnext, List.Subset.trans hsub' hsub⟩
    · rw [bind_error hrun] at hb
      cases hb
  · intro refusals e db he
    rcases hrun : x ⟨s, refusals⟩ with ⟨a, db'⟩ | ⟨e', db'⟩
    · -- What the engine refuses of the rest, it refuses of the whole.
      obtain ⟨hresult, hsub⟩ := hx.ok _ _ _ hrun
      rw [bind_ok hrun] at he
      rcases (hy a db'.store hresult).error _ _ _ he with hnext | ⟨r, hr, rfl⟩
      · exact .inl (by rw [hresult]; exact hnext)
      · exact .inr ⟨r, hsub hr, rfl⟩
    · rw [bind_error hrun] at he
      cases he
      exact (hx.error _ _ _ hrun).imp (fun h => by rw [h]; rfl) id

theorem Performs.failsTo_bind {t : Store} {y : α → Session β} (hx : Performs x s result)
    (hfail : FailsTo x s t) (hy : ∀ a s', result = .ok (a, s') → FailsTo (y a) s' t) :
    FailsTo (x >>= y) s t := by
  intro refusals e db he
  rcases hrun : x ⟨s, refusals⟩ with ⟨a, db'⟩ | ⟨e', db'⟩
  · rw [bind_ok hrun] at he
    exact hy a db'.store (hx.ok _ _ _ hrun).1 _ _ _ he
  · rw [bind_error hrun] at he
    cases he
    exact hfail _ _ _ hrun

theorem performs_pure (a : α) (s : Store) : Performs (pure a) s (.ok (a, s)) := by
  constructor
  · intro refusals b db h
    cases h
    exact ⟨rfl, List.Subset.refl _⟩
  · intro refusals e db h
    cases h

theorem failsTo_pure (a : α) (s t : Store) : FailsTo (pure a) s t := by
  intro refusals e db h
  cases h

theorem performs_throw (e : StoreError) (s : Store) :
    Performs (throw e : Session α) s (.error e) := by
  constructor
  · intro refusals a db h
    cases h
  · intro refusals e' db h
    cases h
    exact .inl rfl

theorem performs_require (check : Except StoreError Unit) (s : Store) :
    Performs (require check) s (check.map fun _ => ((), s)) := by
  rcases check with e | _
  · exact performs_throw e s
  · exact performs_pure () s

theorem failsTo_require (check : Except StoreError Unit) (s : Store) :
    FailsTo (require check) s s := by
  intro refusals e db h
  rcases check with e | _ <;> cases h
  rfl

theorem performs_statement (f : Store → Except DatabaseError (α × Store)) (s : Store) :
    Performs (statement f) s ((f s).mapError .database) := by
  constructor
  · intro refusals a db h
    unfold statement at h
    split at h
    · cases h
    split at h <;> cases h
    rename_i hf
    exact ⟨by rw [hf]; rfl, (List.tail_sublist refusals).subset⟩
  · intro refusals e db h
    unfold statement at h
    split at h
    · rename_i r hr
      cases h
      refine .inr ⟨r, ?_, rfl⟩
      rcases refusals with _ | ⟨_, rest⟩ <;> cases hr
      exact List.mem_cons_self
    · split at h <;> cases h
      rename_i hf
      exact .inl (by rw [hf]; rfl)

theorem performs_statement_of {f : Store → Except DatabaseError (α × Store)}
    (h : (f s).mapError .database = result) : Performs (statement f) s result :=
  h ▸ performs_statement f s

theorem failsTo_statement (f : Store → Except DatabaseError (α × Store)) (s : Store) :
    FailsTo (statement f) s s := by
  intro refusals e db h
  unfold statement at h
  split at h
  · cases h
    rfl
  · split at h <;> cases h
    rfl

theorem performs_pass (h : Performs x s result) : Performs (do pass; x) s result :=
  (performs_statement _ s).bind (g := fun _ _ => result) fun _ _ hs => by cases hs; exact h

/-- A transaction gives what its statements give. -/
theorem performs_transaction (h : Performs x s result) : Performs (transaction x) s result := by
  have hbody : Performs (do pass; let a ← x; pass; return a : Session α) s result := by
    have hsame : result.bind (fun p => .ok (p.1, p.2)) = result := by
      rcases result with e | p <;> rfl
    refine performs_pass ?_
    rw [← hsame]
    exact h.bind (g := fun a s' => .ok (a, s')) fun a s' _ => performs_pass (performs_pure a s')
  constructor
  · intro refusals a db ha
    unfold transaction at ha
    split at ha <;> cases ha
    rename_i hrun
    exact hbody.ok _ _ _ hrun
  · intro refusals e db he
    unfold transaction at he
    split at he <;> cases he
    rename_i hrun
    exact hbody.error _ _ _ hrun

theorem failsTo_transaction (x : Session α) (s : Store) : FailsTo (transaction x) s s := by
  intro refusals e db h
  unfold transaction at h
  split at h <;> cases h
  rfl

/-- Run on a store, a session gives the result, unless the engine refuses one of its statements. If
it fails, the store is as it was. -/
structure Implements (x : Session α) (s : Store) (result : Except StoreError (α × Store)) : Prop
    extends Performs x s result where
  failsTo : FailsTo x s s

theorem implements_transaction (h : Performs x s result) : Implements (transaction x) s result :=
  ⟨performs_transaction h, failsTo_transaction x s⟩

theorem implements_require {c : Except StoreError Unit}
    (h : c = .ok () → Implements x s result) :
    Implements (do require c; x) s (c.bind fun _ => result) := by
  rcases c with e | _
  · have hcheck := performs_require (.error e) s
    constructor
    · exact hcheck.bind (g := fun _ _ => result) fun _ _ hs => by cases hs
    · exact hcheck.failsTo_bind (failsTo_require _ s) fun _ _ hs => by cases hs
  · exact h rfl

theorem implements_checkAffected (id : Int) (n : Nat) (h : Implements x s result) :
    Implements (do checkAffected id n; x) s (if n = 0 then .error (.notFound id) else result) := by
  have hcheck := implements_require (c := if n = 0 then .error (.notFound id) else .ok ())
    fun _ => h
  unfold checkAffected
  by_cases hn : n = 0 <;> simp only [hn, if_true, if_false] at hcheck ⊢ <;> exact hcheck

/-- A statement that has to change a row. -/
theorem implements_affected (id : Int) (count : Store → Nat) (change : Store → Store)
    (hnone : count s = 0 → change s = s) :
    Implements (do
        checkAffected id (← statement fun s => .ok (count s, change s))
        return Outcome.done) s
      (if count s = 0 then .error (.notFound id) else .ok (.done, change s)) := by
  have hrun := performs_statement (fun s => .ok (count s, change s)) s
  have hrest := fun n s' => implements_checkAffected id n (x := pure Outcome.done)
    ⟨performs_pure Outcome.done s', failsTo_pure _ s' s'⟩
  constructor
  · exact hrun.bind
      (g := fun n s' => if n = 0 then .error (.notFound id) else .ok (Outcome.done, s'))
      fun n s' _ => (hrest n s').toPerforms
  · -- The check fails only after a statement that found no row, and so changed nothing.
    refine hrun.failsTo_bind (failsTo_statement _ s) fun n s' hn => ?_
    cases hn
    by_cases hzero : count s = 0
    · rw [hnone hzero]
      exact (hrest _ s).failsTo
    · unfold checkAffected
      rw [if_neg hzero]
      intro refusals e db he
      cases he

end Session

end Downloads
