import Downloads.Proofs.Store.Session

/-!
# What the statements of a call do

Unless the engine refuses one of its statements, a call does statement by statement what
`Store.apply` does at once. If it fails on the way, for whatever reason, the store is as it was:
a call of one statement fails only after the statement changed nothing, and a call of several runs
them in a transaction (`Session.implements_session`).
-/

namespace Downloads

namespace Session

variable {s : Store}

theorem countP_of_none {id : Int} (h : s.find? id = none) :
    (s.rows.countP fun r => r.id == id) = 0 := by
  simpa using Store.find?_eq_none_iff.mp h

theorem countP_of_some {id : Int} {r : Row} (h : s.find? id = some r) :
    (s.rows.countP fun r => r.id == id) ≠ 0 := by
  rw [← Nat.pos_iff_ne_zero, List.countP_pos_iff]
  exact ⟨r, Store.mem_of_find? h, by simpa using Store.id_of_find? h⟩

/-- In an ordered store, an id has one row at most. -/
theorem countP_eq_one (hs : s.Ordered) {id : Int} {r : Row} (h : s.find? id = some r) :
    (s.rows.countP fun r => r.id == id) = 1 := by
  have hmem : id ∈ s.rows.map (·.id) :=
    List.mem_map.mpr ⟨r, Store.mem_of_find? h, Store.id_of_find? h⟩
  have hcount := List.count_eq_one_of_mem hs.nodup hmem
  rwa [List.count, List.countP_map] at hcount

theorem map_eq_self {rows : List Row} {change : Row → Row} (h : ∀ r ∈ rows, change r = r) :
    rows.map change = rows := (List.map_congr_left h).trans (List.map_id rows)

theorem rewrite_of_none {id : Int} (h : s.find? id = none) (change : Row → Row) :
    s.rewrite id change = s := by
  unfold Store.rewrite
  rw [map_eq_self fun r hr => if_neg (Store.find?_eq_none_iff.mp h r hr)]

theorem updateRows_id (id : Int) (change : Row → Row) :
    updateRows (fun r => r.id == id) change =
      statement fun s => .ok (s.rows.countP fun r => r.id == id, s.rewrite id change) := by
  simp only [updateRows, Store.rewrite, beq_iff_eq]

theorem implements_updateRow (id : Int) (change : Row → Row) (s : Store) :
    Implements (updateRow id change) s ((s.updateRow id change).map fun s => (.done, s)) := by
  unfold updateRow
  rw [updateRows_id]
  have h := implements_affected (s := s) id (fun s => s.rows.countP fun r => r.id == id)
    (·.rewrite id change)
  rcases hr : s.find? id with _ | r
  · have hnone := h fun _ => rewrite_of_none hr change
    rw [if_pos (countP_of_none hr)] at hnone
    rwa [Store.updateRow_of_none hr]
  · have hsome := h fun hzero => absurd hzero (countP_of_some hr)
    rw [if_neg (countP_of_some hr)] at hsome
    rwa [Store.updateRow_of_some hr]

theorem implements_updateRetry (id : Int) (change : Nat × Nat → Row → Row)
    (answer : Nat × Nat → Outcome) (s : Store) :
    Implements (updateRetry id change answer) s ((s.packedRetry id).bind fun p =>
      (s.updateRow id (change p)).map fun s => (answer p, s)) := by
  refine implements_transaction ?_
  rcases hr : s.find? id with _ | r
  · have hselect : Performs (selectRetry id) s (.ok (none, s)) :=
      performs_statement_of (by simp only [hr]; rfl)
    rw [Store.packedRetry_of_none hr]
    exact hselect.bind (g := fun _ _ => .error (.notFound id)) fun _ _ hs => by
      cases hs
      exact performs_throw _ s
  have hselect : Performs (selectRetry id) s
      ((r.retryRedirect.readInt.map fun n => (some n, s)).mapError .database) :=
    performs_statement_of (by simp only [hr])
  rw [Store.packedRetry_of_some hr]
  rcases hread : r.retryRedirect.readInt with e | n <;> rw [hread] at hselect
  · exact hselect.bind (g := fun _ _ => .error (.database e)) fun _ _ hs => by cases hs
  · have hupdate := performs_statement (fun s => .ok (s.rows.countP fun r => r.id == id,
      s.rewrite id (change (PackedRetry.unpack n)))) s
    rw [← updateRows_id] at hupdate
    simp only [Except.bind, Store.updateRow_of_some hr]
    exact hselect.bind (g := fun _ _ => .ok (answer (PackedRetry.unpack n), _)) fun _ _ hs => by
      cases hs
      exact hupdate.bind (g := fun _ _ => .ok (_, _)) fun _ _ hs => by
        cases hs
        exact performs_pure _ _

/-- Headers can be added one by one to a row that is there. -/
theorem performs_insertHeaders (id : Int) (hs : List (String × String)) (s : Store)
    (hid : (s.find? id).isSome = true) :
    Performs (hs.forM fun h => insertHeader id h.1 h.2) s
      (.ok ((), { s with headers := s.headers ++ hs.map fun h => ⟨id, h.1, h.2⟩ })) := by
  induction hs generalizing s with
  | nil => simpa using performs_pure () s
  | cons h hs ih =>
    have hone : Performs (insertHeader id h.1 h.2) s
        (.ok ((), { s with headers := s.headers ++ [⟨id, h.1, h.2⟩] })) :=
      performs_statement_of (by rw [if_pos hid]; rfl)
    have hmore := ih { s with headers := s.headers ++ [⟨id, h.1, h.2⟩] } hid
    rw [List.map_cons, List.append_cons]
    exact hone.bind (g := fun _ _ => .ok ((), _)) fun _ _ hs => by
      cases hs
      exact hmore

theorem find?_addRow_isSome (s : Store) (r : Row) : ((s.addRow r).find? r.id).isSome = true := by
  unfold Store.find?
  rw [List.find?_isSome]
  exact ⟨r, List.mem_append_right _ List.mem_cons_self, beq_self_eq_true r.id⟩

variable [Url.HostNames]

theorem implements_addHeader (hs : s.Ordered) (id : Int) (name value : String) :
    Implements (Operation.addHeader id name value).session s
      (s.apply (.addHeader id name value)) := by
  have happly : s.apply (.addHeader id name value) =
      (Store.checkHeaderName name).bind fun _ =>
        if (s.find? id).isSome
        then .ok (.done, { s with headers := s.headers ++ [⟨id, name, value⟩] })
        else .error (.notFound id) := by
    simp only [Store.apply, Store.addHeader, bind]
    rcases Store.checkHeaderName name with e | _
    · rfl
    · simp only [Except.bind]
      cases s.find? id <;> rfl
  rw [happly]
  refine implements_require fun _ => ?_
  let count := fun s : Store => s.rows.countP fun r => r.id == id
  let added := fun s : Store => List.replicate (count s) (HeaderRow.mk id name value)
  have h := implements_affected (s := s) id count
    (fun s => { s with headers := s.headers ++ added s }) fun hzero => by
      simp only [added, hzero, List.replicate_zero, List.append_nil]
  simp only [count, added] at h
  rcases hr : s.find? id with _ | r
  · rw [if_pos (countP_of_none hr)] at h
    exact h
  · rw [if_neg (countP_of_some hr), countP_eq_one hs hr] at h
    exact h

theorem implements_delete (id : Int) (s : Store) :
    Implements (Operation.delete id).session s (s.apply (.delete id)) := by
  refine implements_transaction ?_
  let cleared : Store := { s with headers := s.headers.filter fun h => h.download != id }
  have hheaders : Performs (deleteHeaders id) s (.ok ((), cleared)) := performs_statement _ s
  have hrows := implements_affected (s := cleared) id (fun s => s.rows.countP fun r => r.id == id)
    (fun s => { s with rows := s.rows.filter fun r => r.id != id }) fun hzero => by
      have hall : (cleared.rows.filter fun r => r.id != id) = cleared.rows := by
        simpa [List.countP_eq_zero] using hzero
      rw [hall]
  have hall : Performs
      (do deleteHeaders id; checkAffected id (← deleteRows id); return Outcome.done) s
      (if (s.rows.countP fun r => r.id == id) = 0 then .error (.notFound id)
        else .ok (.done, { cleared with rows := s.rows.filter fun r => r.id != id })) :=
    hheaders.bind (g := fun _ _ => _) fun _ _ hs => by
      cases hs
      exact hrows.toPerforms
  rcases hr : s.find? id with _ | r
  · rw [if_pos (countP_of_none hr)] at hall
    simp only [Store.apply, Store.delete, hr]
    exact hall
  · rw [if_neg (countP_of_some hr)] at hall
    simp only [Store.apply, Store.delete, hr]
    exact hall

theorem implements_insert (d : NewDownload) (now : Int) (s : Store) :
    Implements (Operation.insert d now).session s (s.apply (.insert d now)) := by
  have happly : s.apply (.insert d now) = d.check.bind fun _ => s.nextId.bind fun id =>
      .ok (.inserted id, { s.addRow (d.row id now) with
        headers := s.headers ++ d.headers.map fun h => ⟨id, h.1, h.2⟩ }) := by
    simp only [Store.apply, Store.insert, bind]
    rcases d.check with e | _
    · rfl
    · rcases s.nextId with e | id <;> rfl
  rw [happly]
  refine implements_require fun _ => implements_transaction ?_
  rcases hid : s.nextId with e | id
  · obtain rfl : e = .database (.refused .full) := by
      unfold Store.nextId at hid
      dsimp only at hid
      split at hid <;> cases hid
      rfl
    have hrow : Performs (insertRow d now) s (.error (.database (.refused .full))) :=
      performs_statement_of (by simp only [hid]; rfl)
    exact hrow.bind (g := fun _ _ => .error (.database (.refused .full))) fun _ _ hs => by cases hs
  · have hrow : Performs (insertRow d now) s (.ok (id, s.addRow (d.row id now))) :=
      performs_statement_of (by simp only [hid]; rfl)
    have hheaders := performs_insertHeaders id d.headers _ (find?_addRow_isSome s (d.row id now))
    exact hrow.bind (g := fun _ _ => .ok (Outcome.inserted id, _)) fun _ _ hs => by
      cases hs
      exact hheaders.bind (g := fun _ _ => .ok (Outcome.inserted id, _)) fun _ _ hs => by
        cases hs
        exact performs_pure _ _

theorem implements_claim (hs : s.Ordered) (id : Int) :
    Implements (Operation.claimCompletionNotice id).session s
      (s.apply (.claimCompletionNotice id)) := by
  let armed : Row → Bool := fun r => r.id == id && r.completionNotified == .int 0
  have hupdate : Performs (updateRows armed Row.claimed) s (.ok (s.rows.countP armed,
      { s with rows := s.rows.map fun r => if armed r then r.claimed else r })) :=
    performs_statement _ s
  have hrun := hupdate.bind (g := fun n s' => .ok (Outcome.claimed (0 < n), s')) fun n s' _ =>
    performs_pure (Outcome.claimed (0 < n)) s'
  suffices happly : s.apply (.claimCompletionNotice id) =
      .ok (.claimed (0 < s.rows.countP armed),
        { s with rows := s.rows.map fun r => if armed r then r.claimed else r }) by
    rw [happly]
    exact ⟨hrun, hupdate.failsTo_bind (failsTo_statement _ s) fun _ _ _ => failsTo_pure _ _ _⟩
  have hunarmed (h : ∀ r ∈ s.rows, armed r = false) : s.rows.countP armed = 0 ∧
      (s.rows.map fun r => if armed r then r.claimed else r) = s.rows :=
    ⟨List.countP_eq_zero.mpr (by simpa using h), map_eq_self fun r hr => if_neg (by simp [h r hr])⟩
  simp only [Store.apply, Store.claimCompletionNotice]
  rcases hr : s.find? id with _ | r
  · obtain ⟨hcount, hmap⟩ := hunarmed fun r hr' => by
      simp [armed, Store.find?_eq_none_iff.mp hr r hr']
    rw [hcount, hmap]
    rfl
  -- The statement tests every row for the id and the flag, the call looks one row up.
  have honly : ∀ x ∈ s.rows, x.id = id → x = r := by
    intro x hx hid
    have hfind := hs.find?_eq_some hx
    rw [hid, hr, Option.some.injEq] at hfind
    exact hfind.symm
  by_cases hflag : r.completionNotified = .int 0
  · have harmed : ∀ x ∈ s.rows, armed x = decide (x.id = id) := by
      intro x hx
      by_cases hid : x.id = id
      · obtain rfl := honly x hx hid
        simp [armed, hid, hflag]
      · simp [armed, hid]
    have hcount : 0 < s.rows.countP armed := by
      refine List.countP_pos_iff.mpr ⟨r, Store.mem_of_find? hr, ?_⟩
      simp [armed, Store.id_of_find? hr, hflag]
    have hmap : (s.rows.map fun r => if armed r then r.claimed else r) =
        s.rows.map fun r => if r.id = id then r.claimed else r :=
      List.map_congr_left fun x hx => by simp [harmed x hx]
    simp only [hflag, if_true, hcount, decide_true, hmap]
  · obtain ⟨hcount, hmap⟩ := hunarmed fun x hx => by
      by_cases hid : x.id = id
      · simp [armed, honly x hx hid, hflag]
      · simp [armed, hid]
    simp only [hflag, if_false, hcount, hmap]
    rfl

/-- **Calls as statements.** A call does what its statements do: unless the engine refuses one of
them, it gives the answer and the store of `Store.apply`, and if it fails, the store is as it
was. -/
theorem implements_session (hs : s.Ordered) (op : Operation) :
    Implements op.session s (s.apply op) := by
  cases op with
  | insert d now => exact implements_insert d now s
  | addHeader id name value => exact implements_addHeader hs id name value
  | delete id => exact implements_delete id s
  | setControl id control now => exact implements_updateRow id _ s
  | markRunning id now => exact implements_updateRow id _ s
  | markWaiting id now => exact implements_updateRow id _ s
  | markPausedForRetry id retryAfter now =>
    rw [s.apply_markPausedForRetry]
    exact implements_updateRetry id
      (fun p r => r.pausedForRetry (PackedRetry.pack (retryAfter.getD 0) p.2) now)
      (fun _ => .done) s
  | recordRedirect id =>
    rw [s.apply_recordRedirect]
    exact implements_updateRetry id
      (fun p r => r.withRetry (PackedRetry.pack p.1 ((p.2 + 1) % (PackedRetry.maxRedirects + 1))))
      (fun p => .redirects ((p.2 + 1) % (PackedRetry.maxRedirects + 1))) s
  | markFailed id code now =>
    have happly : s.apply (.markFailed id code now) = (Store.checkFailureCode code).bind fun _ =>
        (s.updateRow id (·.failed code now)).map fun s => (.done, s) := by
      simp only [Store.apply, Store.markFailed, bind]
      cases Store.checkFailureCode code <;> rfl
    rw [happly]
    exact implements_require fun _ => implements_updateRow id _ s
  | markSuccess id payload now => exact implements_updateRow id _ s
  | updateProgress id current total => exact implements_updateRow id _ s
  | claimCompletionNotice id => exact implements_claim hs id

end Session

end Downloads
