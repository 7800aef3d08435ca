import Downloads.Store.Basic
import Mathlib.Data.List.Induction
import Mathlib.Data.List.TakeWhile

/-!
# What a call does to one download

Seen from one id, a call on the store adds a row, rewrites the row, removes it or leaves it alone.
`Operation.effect` says what becomes of a row that is there. `Store.find?_after_of_some` and
`Store.find?_after_of_none` say that a call does nothing else, so an invariant of single rows needs
one case for new rows and one for the changes of `Operation.change`
(`Store.Reachable.row_induction`).
-/

namespace Downloads

namespace Operation

/-- The download that a call is about. A call that adds a download has none yet. -/
def target? : Operation → Option Int
  | .insert .. => none
  | .addHeader id .. | .delete id | .setControl id .. | .markRunning id _ | .markWaiting id _
  | .markPausedForRetry id .. | .recordRedirect id | .markFailed id .. | .markSuccess id ..
  | .updateProgress id .. | .claimCompletionNotice id => some id

/-- What a call makes of the row of its download, none if it removes it. A call that fails leaves
the row as it is. -/
def change (r : Row) : Operation → Option Row
  | .insert .. | .addHeader .. => some r
  | .delete _ => none
  | .setControl _ control now => some (r.withControl control now)
  | .markRunning _ now => some (r.withStatus .running now)
  | .markWaiting _ now => some (r.withStatus .runningPaused now)
  | .markPausedForRetry _ retryAfter now =>
    match r.retryRedirect.readInt with
    | .error _ => some r
    | .ok n => some
      (r.pausedForRetry (PackedRetry.pack (retryAfter.getD 0) (PackedRetry.unpack n).2) now)
  | .recordRedirect _ =>
    match r.retryRedirect.readInt with
    | .error _ => some r
    | .ok n => some (r.withRetry (PackedRetry.pack (PackedRetry.unpack n).1
        (((PackedRetry.unpack n).2 + 1) % (PackedRetry.maxRedirects + 1))))
  | .markFailed _ code now =>
    some (if Status.isFailureCode code.toNat then r.failed code now else r)
  | .markSuccess _ payload now => some (r.succeeded payload now)
  | .updateProgress _ current total => some (r.withProgress current total)
  | .claimCompletionNotice _ => some (if r.completionNotified = .int 0 then r.claimed else r)

/-- What a call makes of the row of a download, whichever download it is about. -/
def effect (id : Int) (r : Row) (op : Operation) : Option Row :=
  if op.target? = some id then op.change r else some r

theorem effect_of_target {op : Operation} {id : Int} (h : op.target? = some id) (r : Row) :
    op.effect id r = op.change r := if_pos h

theorem effect_of_ne {op : Operation} {id : Int} (h : op.target? ≠ some id) (r : Row) :
    op.effect id r = some r := if_neg h

end Operation

namespace Store

variable {s : Store}

/-! ## Looking up -/

theorem id_of_find? {id : Int} {r : Row} (h : s.find? id = some r) : r.id = id := by
  simpa using List.find?_some h

theorem mem_of_find? {id : Int} {r : Row} (h : s.find? id = some r) : r ∈ s.rows :=
  List.mem_of_find?_eq_some h

theorem find?_eq_none_iff {id : Int} : s.find? id = none ↔ ∀ r ∈ s.rows, r.id ≠ id := by
  simp [find?]

/-- Rewriting rows commutes with looking one up, as long as the ids stay. -/
theorem find?_map {rows : List Row} {f : Row → Row} (hf : ∀ r, (f r).id = r.id) (id : Int) :
    (rows.map f).find? (fun r => r.id == id) = (rows.find? fun r => r.id == id).map f := by
  rw [List.find?_map]
  congr 2
  funext r
  simp only [Function.comp_apply, hf]

theorem find?_filter_ne (rows : List Row) (id i : Int) :
    (rows.filter fun r => r.id != id).find? (fun r => r.id == i) =
      if i = id then none else rows.find? fun r => r.id == i := by
  rw [List.find?_filter]
  by_cases h : i = id
  · subst h
    simp
  · rw [if_neg h]
    congr 1
    funext r
    by_cases hr : r.id = i <;> simp [hr, h]

/-! ## Rewriting a row -/

/-- The store in which the rows with an id are rewritten. -/
def rewrite (s : Store) (id : Int) (change : Row → Row) : Store :=
  { s with rows := s.rows.map fun r => if r.id = id then change r else r }

theorem find?_rewrite {change : Row → Row} (hid : ∀ r, (change r).id = r.id) (id i : Int) :
    (s.rewrite id change).find? i = (s.find? i).map fun r => if i = id then change r else r := by
  have hf : ∀ r : Row, (if r.id = id then change r else r).id = r.id := by
    intro r
    split
    · exact hid r
    · rfl
  show (s.rows.map _).find? _ = _
  rw [find?_map hf]
  show (s.find? i).map _ = _
  rcases hr : s.find? i with _ | r
  · rfl
  · simp only [Option.map_some, id_of_find? hr]

theorem updateRow_of_some {id : Int} {r : Row} (h : s.find? id = some r) (change : Row → Row) :
    s.updateRow id change = .ok (s.rewrite id change) := by
  simp only [updateRow, h]
  rfl

theorem updateRow_of_none {id : Int} (h : s.find? id = none) (change : Row → Row) :
    s.updateRow id change = .error (.notFound id) := by
  simp only [updateRow, h]

theorem packedRetry_of_some {id : Int} {r : Row} (h : s.find? id = some r) :
    s.packedRetry id = match r.retryRedirect.readInt with
      | .error e => .error (.database e)
      | .ok n => .ok (PackedRetry.unpack n) := by
  rcases hread : r.retryRedirect.readInt with e | n <;> simp only [packedRetry, h, hread]

theorem packedRetry_of_none {id : Int} (h : s.find? id = none) :
    s.packedRetry id = .error (.notFound id) := by
  simp only [packedRetry, h]

/-! ## Adding a row -/

theorem le_foldl_max (rows : List Row) (m : Int) :
    m ≤ rows.foldl (fun m r => max m r.id) m ∧
      ∀ r ∈ rows, r.id ≤ rows.foldl (fun m r => max m r.id) m := by
  induction rows generalizing m with
  | nil => simp
  | cons a rows ih =>
    obtain ⟨hm, hrows⟩ := ih (max m a.id)
    refine ⟨by simp only [List.foldl_cons]; omega, fun r hr => ?_⟩
    rcases List.mem_cons.mp hr with rfl | hr
    · simp only [List.foldl_cons]
      omega
    · exact hrows r hr

theorem lt_of_nextId {i : Int} (h : s.nextId = .ok i) : s.lastId < i ∧ ∀ r ∈ s.rows, r.id < i := by
  obtain ⟨hlast, hrows⟩ := le_foldl_max s.rows s.lastId
  simp only [nextId] at h
  split at h
  · cases h
    exact ⟨by omega, fun r hr => by have := hrows r hr; omega⟩
  · cases h

theorem find?_of_nextId {i : Int} (h : s.nextId = .ok i) : s.find? i = none :=
  find?_eq_none_iff.mpr fun r hr => Int.ne_of_lt ((lt_of_nextId h).2 r hr)

/-- A row whose id exceeds all others goes to the end. -/
theorem placeRow_of_lt {rows : List Row} {r : Row} (h : ∀ x ∈ rows, x.id < r.id) :
    placeRow rows r = rows ++ [r] := by
  have hall : ∀ x ∈ rows, (decide (x.id < r.id)) = true := by simpa using h
  rw [placeRow, List.takeWhile_eq_self_iff.mpr hall, List.dropWhile_eq_nil_iff.mpr hall]

variable [Url.HostNames]

/-- What a successful insertion does. -/
theorem insert_eq_ok {d : NewDownload} {now i : Int} {s' : Store}
    (h : s.insert d now = .ok (i, s')) :
    s.nextId = .ok i ∧ s'.rows = s.rows ++ [d.row i now] ∧ s'.lastId = i ∧
      s'.headers = s.headers ++ d.headers.map fun h => ⟨i, h.1, h.2⟩ := by
  simp only [insert, bind, Except.bind] at h
  split at h
  · cases h
  split at h
  · cases h
  rename_i id hid
  obtain ⟨hlast, hrows⟩ := lt_of_nextId hid
  simp only [pure, Except.pure, Except.ok.injEq, Prod.mk.injEq] at h
  obtain ⟨rfl, rfl⟩ := h
  refine ⟨hid, placeRow_of_lt hrows, ?_, rfl⟩
  show max s.lastId id = id
  omega

/-- A new id is that of no row. -/
theorem ne_of_insert {d : NewDownload} {now i id : Int} {s' : Store} {r : Row}
    (h : s.insert d now = .ok (i, s')) (hr : s.find? id = some r) : id ≠ i := by
  have hlt := (lt_of_nextId (insert_eq_ok h).1).2 r (mem_of_find? hr)
  rw [id_of_find? hr] at hlt
  omega

theorem find?_insert {d : NewDownload} {now i : Int} {s' : Store}
    (h : s.insert d now = .ok (i, s')) (id : Int) :
    s'.find? id = if id = i then some (d.row i now) else s.find? id := by
  obtain ⟨hid, hrows, -, -⟩ := insert_eq_ok h
  have hnew : s.find? i = none := find?_of_nextId hid
  unfold find? at hnew ⊢
  rw [hrows, List.find?_append]
  by_cases hi : id = i
  · subst hi
    rw [hnew, if_pos rfl]
    simp [NewDownload.row]
  · rw [if_neg hi]
    have hne : (d.row i now).id ≠ id := fun h => hi h.symm
    simp [hne]

/-! ## Calls -/

omit [Url.HostNames] in
theorem map_done_ne_inserted (e : Except StoreError Store) (id : Int) (s' : Store) :
    (e.map fun s => (Outcome.done, s)) ≠ .ok (.inserted id, s') := by
  cases e <;> simp [Except.map]

/-- The ways in which a call acts on the store: it leaves it alone, adds a download or a header,
removes its download, or rewrites the row of its download. -/
inductive Acts (s : Store) (op : Operation) : Store → Prop where
  | none (h : ∀ id r, op.target? = some id → s.find? id = some r → op.change r = some r) :
      Acts s op s
  | add {d : NewDownload} {now id : Int} {s' : Store} (hop : op = .insert d now)
      (h : s.insert d now = .ok (id, s')) : Acts s op s'
  | header {id : Int} {name value : String} (hop : op = .addHeader id name value)
      (h : (s.find? id).isSome) : Acts s op { s with headers := s.headers ++ [⟨id, name, value⟩] }
  | remove {id : Int} (hop : op = .delete id) (h : (s.find? id).isSome) :
      Acts s op { s with
        rows := s.rows.filter fun r => r.id != id
        headers := s.headers.filter fun h => h.download != id }
  | rewrite {id : Int} {r : Row} {change : Row → Row} (ht : op.target? = some id)
      (h : s.find? id = some r) (hid : ∀ r, (change r).id = r.id)
      (hc : op.change r = some (change r)) : Acts s op (s.rewrite id change)

theorem after_of_ok {op : Operation} {o : Outcome} {s' : Store} (h : s.apply op = .ok (o, s')) :
    s.after op = s' := by
  simp only [after, h]

theorem after_of_error {op : Operation} {e : StoreError} (h : s.apply op = .error e) :
    s.after op = s := by
  simp only [after, h]

theorem apply_insert_of_ok {d : NewDownload} {now i : Int} {s' : Store}
    (h : s.insert d now = .ok (i, s')) : s.apply (.insert d now) = .ok (.inserted i, s') := by
  simp only [apply, h]
  rfl

theorem apply_addHeader_of_ok {i : Int} {name value : String} {s' : Store}
    (h : s.addHeader i name value = .ok s') :
    s.apply (.addHeader i name value) = .ok (.done, s') := by
  simp only [apply, h]
  rfl

/-- Only an insertion answers with a new id. -/
theorem apply_eq_inserted {op : Operation} {id : Int} {s' : Store}
    (h : s.apply op = .ok (.inserted id, s')) :
    ∃ d now, op = .insert d now ∧ s.insert d now = .ok (id, s') := by
  cases op <;> simp only [apply] at h
  case insert d now =>
    refine ⟨d, now, rfl, ?_⟩
    rcases hs : s.insert d now with e | ⟨i, s''⟩ <;> rw [hs] at h <;> cases h
    rfl
  case claimCompletionNotice => cases h
  case recordRedirect i =>
    rcases hs : s.recordRedirect i with e | ⟨n, s''⟩ <;> rw [hs] at h <;> cases h
  all_goals exact absurd h (map_done_ne_inserted _ id s')

theorem apply_markPausedForRetry (s : Store) (id : Int) (retryAfter : Option Nat) (now : Int) :
    s.apply (.markPausedForRetry id retryAfter now) =
      (s.packedRetry id).bind fun p =>
        (s.updateRow id fun r =>
          r.pausedForRetry (PackedRetry.pack (retryAfter.getD 0) p.2) now).map fun s =>
            (.done, s) := by
  simp only [apply, markPausedForRetry]
  cases s.packedRetry id <;> rfl

theorem apply_recordRedirect (s : Store) (id : Int) :
    s.apply (.recordRedirect id) =
      (s.packedRetry id).bind fun p =>
        (s.updateRow id fun r => r.withRetry
          (PackedRetry.pack p.1 ((p.2 + 1) % (PackedRetry.maxRedirects + 1)))).map fun s =>
            (.redirects ((p.2 + 1) % (PackedRetry.maxRedirects + 1)), s) := by
  simp only [apply, recordRedirect]
  rcases s.packedRetry id with e | p
  · rfl
  · simp only [bind, Except.bind]
    cases s.updateRow id _ <;> rfl

theorem acts_of_error {op : Operation} {id : Int} {e : StoreError} (ht : op.target? = some id)
    (h : s.apply op = .error e) (hc : ∀ r, s.find? id = some r → op.change r = some r) :
    Acts s op (s.after op) := by
  rw [after_of_error h]
  refine .none fun i r hi hr => hc r ?_
  rw [ht] at hi
  cases hi
  exact hr

/-- A call that does no more than rewrite the row of its download. -/
theorem acts_of_update {op : Operation} {id : Int} {o : Outcome} (change : Row → Row)
    (hid : ∀ r, (change r).id = r.id) (ht : op.target? = some id)
    (h : s.apply op = (s.updateRow id change).map fun s => (o, s))
    (hc : ∀ r, s.find? id = some r → op.change r = some (change r)) : Acts s op (s.after op) := by
  rcases hs : s.find? id with _ | r
  · rw [updateRow_of_none hs] at h
    exact acts_of_error ht h fun r hr => by rw [hs] at hr; cases hr
  · rw [updateRow_of_some hs] at h
    rw [after_of_ok h]
    exact .rewrite ht hs hid (hc r hs)

/-- A call that reads the packed retry field before it rewrites the row. -/
theorem acts_of_retry {op : Operation} {id : Int} (change : Nat × Nat → Row → Row)
    (o : Nat × Nat → Outcome) (hid : ∀ p r, (change p r).id = r.id) (ht : op.target? = some id)
    (h : s.apply op =
      (s.packedRetry id).bind fun p => (s.updateRow id (change p)).map fun s => (o p, s))
    (hc : ∀ r, op.change r = match r.retryRedirect.readInt with
      | .error _ => some r
      | .ok n => some (change (PackedRetry.unpack n) r)) :
    Acts s op (s.after op) := by
  rcases hs : s.find? id with _ | r₀
  · rw [packedRetry_of_none hs] at h
    exact acts_of_error ht h fun r hr => by rw [hs] at hr; cases hr
  rw [packedRetry_of_some hs] at h
  have hc₀ := hc r₀
  rcases hread : r₀.retryRedirect.readInt with e | n <;> rw [hread] at h hc₀
  · refine acts_of_error ht h fun r hr => ?_
    rw [hs] at hr
    cases hr
    exact hc₀
  · refine acts_of_update (change _) (hid _) ht h fun r hr => ?_
    rw [hs] at hr
    cases hr
    exact hc₀

theorem acts_after (s : Store) (op : Operation) : Acts s op (s.after op) := by
  cases op with
  | insert d now =>
    rcases hs : s.insert d now with e | ⟨i, s'⟩
    · rw [after_of_error (by simp only [apply, hs]; rfl)]
      exact .none fun _ _ ht => by cases ht
    · rw [after_of_ok (apply_insert_of_ok hs)]
      exact .add rfl hs
  | addHeader i name value =>
    rcases hname : checkHeaderName name with e | _
    · refine acts_of_error rfl (e := e) ?_ fun _ _ => rfl
      simp only [apply, addHeader, hname]
      rfl
    rcases hs : s.find? i with _ | r
    · refine acts_of_error rfl (e := .notFound i) ?_ fun _ _ => rfl
      simp only [apply, addHeader, hname, hs]
      rfl
    · rw [after_of_ok (o := .done) (by simp only [apply, addHeader, hname, hs]; rfl)]
      exact .header rfl (by simp [hs])
  | delete i =>
    rcases hs : s.find? i with _ | r
    · refine acts_of_error rfl (e := .notFound i) ?_ fun r hr => by rw [hs] at hr; cases hr
      simp only [apply, delete, hs]
      rfl
    · rw [after_of_ok (o := .done) (by simp only [apply, delete, hs]; rfl)]
      exact .remove rfl (by simp [hs])
  | setControl i control now =>
    exact acts_of_update (·.withControl control now) (fun _ => rfl) rfl rfl fun _ _ => rfl
  | markRunning i now =>
    exact acts_of_update (·.withStatus .running now) (fun _ => rfl) rfl rfl fun _ _ => rfl
  | markWaiting i now =>
    exact acts_of_update (·.withStatus .runningPaused now) (fun _ => rfl) rfl rfl fun _ _ => rfl
  | markPausedForRetry i retryAfter now =>
    refine acts_of_retry
      (fun p r => r.pausedForRetry (PackedRetry.pack (retryAfter.getD 0) p.2) now)
      (fun _ => .done) (fun _ _ => rfl) rfl ?_ fun _ => rfl
    exact s.apply_markPausedForRetry i retryAfter now
  | recordRedirect i =>
    refine acts_of_retry
      (fun p r => r.withRetry (PackedRetry.pack p.1 ((p.2 + 1) % (PackedRetry.maxRedirects + 1))))
      (fun p => .redirects ((p.2 + 1) % (PackedRetry.maxRedirects + 1)))
      (fun _ _ => rfl) rfl ?_ fun _ => rfl
    exact s.apply_recordRedirect i
  | markFailed i code now =>
    rcases hcode : Status.isFailureCode code.toNat with _ | _
    · refine acts_of_error rfl (e := .invalidInput (.notAFailureCode code)) ?_ fun _ _ => ?_
      · simp only [apply, markFailed, checkFailureCode, hcode]
        rfl
      · simp [Operation.change, hcode]
    · refine acts_of_update (·.failed code now) (fun _ => rfl) rfl (o := .done) ?_ fun _ _ => ?_
      · simp only [apply, markFailed, checkFailureCode, hcode]
        rfl
      · simp [Operation.change, hcode]
  | markSuccess i payload now =>
    exact acts_of_update (·.succeeded payload now) (fun _ => rfl) rfl rfl fun _ _ => rfl
  | updateProgress i current total =>
    exact acts_of_update (·.withProgress current total) (fun _ => rfl) rfl rfl fun _ _ => rfl
  | claimCompletionNotice i =>
    show Acts s _ (s.claimCompletionNotice i).2
    rcases hs : s.find? i with _ | r
    · simp only [claimCompletionNotice, hs]
      exact .none fun _ r ht hr => by cases ht; rw [hs] at hr; cases hr
    simp only [claimCompletionNotice, hs]
    split
    · rename_i hflag
      show Acts s _ (s.rewrite i Row.claimed)
      exact .rewrite rfl hs (fun _ => rfl) (by simp [Operation.change, hflag])
    · rename_i hflag
      refine .none fun _ r ht hr => ?_
      cases ht
      rw [hs] at hr
      cases hr
      simp [Operation.change, hflag]

/-! ### What a call leaves of a row -/

/-- A call turns each row that is there into what `Operation.effect` says. -/
theorem find?_after_of_some (op : Operation) {id : Int} {r : Row} (h : s.find? id = some r) :
    (s.after op).find? id = op.effect id r := by
  generalize hs' : s.after op = s'
  have hacts := acts_after s op
  rw [hs'] at hacts
  cases hacts with
  | none hc =>
    rw [h]
    by_cases ht : op.target? = some id
    · rw [Operation.effect_of_target ht, hc id r ht h]
    · rw [Operation.effect_of_ne ht]
  | @add d now i _ hop hins =>
    subst hop
    rw [find?_insert hins, if_neg (ne_of_insert hins h), h]
    rfl
  | header hop =>
    subst hop
    show s.find? id = _
    unfold Operation.effect
    split <;> exact h
  | @remove i hop =>
    subst hop
    show (s.rows.filter _).find? _ = _
    rw [find?_filter_ne]
    show (if id = i then none else s.find? id) = _
    by_cases hi : id = i
    · rw [if_pos hi, Operation.effect_of_target (hi ▸ rfl)]
      rfl
    · rw [if_neg hi, h, Operation.effect_of_ne (by simpa [Operation.target?] using Ne.symm hi)]
  | @rewrite i r₀ change ht hr₀ hid hc =>
    rw [find?_rewrite hid, h]
    by_cases hi : id = i
    · subst hi
      rw [h] at hr₀
      cases hr₀
      rw [Operation.effect_of_target ht, hc]
      simp
    · rw [Operation.effect_of_ne (by simpa [ht] using Ne.symm hi)]
      simp [hi]

/-- A call that fails leaves each row as it is. -/
theorem effect_of_not_isOk {op : Operation} {id : Int} {r : Row} (h : s.find? id = some r)
    (hok : ¬ (s.apply op).isOk = true) : op.effect id r = some r := by
  rw [← find?_after_of_some op h]
  rcases happly : s.apply op with e | ⟨o, s'⟩
  · rw [after_of_error happly, h]
  · rw [happly] at hok
    exact absurd rfl hok

/-- Only an insertion makes a row where there was none. -/
theorem find?_after_of_none {op : Operation} {id : Int} {r : Row} (h : s.find? id = none)
    (h' : (s.after op).find? id = some r) :
    ∃ d now, op = .insert d now ∧ s.insert d now = .ok (id, s.after op) ∧ r = d.row id now := by
  generalize hs' : s.after op = s' at h' ⊢
  have hacts := acts_after s op
  rw [hs'] at hacts
  cases hacts with
  | none => rw [h] at h'; cases h'
  | @add d now i _ hop hins =>
    rw [find?_insert hins] at h'
    split at h'
    · rename_i hi
      subst hi
      cases h'
      exact ⟨d, now, hop, hins, rfl⟩
    · rw [h] at h'
      cases h'
  | header =>
    change s.find? id = _ at h'
    rw [h] at h'
    cases h'
  | remove =>
    change (s.rows.filter _).find? _ = _ at h'
    rw [find?_filter_ne] at h'
    change (if _ then none else s.find? id) = _ at h'
    rw [h] at h'
    simp at h'
  | rewrite ht hr₀ hid hc =>
    rw [find?_rewrite hid, h] at h'
    cases h'

/-- A call keeps the order of the ids, and puts a new one above all that were ever used. -/
theorem ids_after (s : Store) (op : Operation) :
    ((s.after op).lastId = s.lastId ∧
        ((s.after op).rows.map (·.id)).Sublist (s.rows.map (·.id))) ∨
      ∃ i, s.lastId < i ∧ (∀ r ∈ s.rows, r.id < i) ∧ (s.after op).lastId = i ∧
        (s.after op).rows.map (·.id) = s.rows.map (·.id) ++ [i] := by
  generalize hs' : s.after op = s'
  have hacts := acts_after s op
  rw [hs'] at hacts
  cases hacts with
  | none => exact .inl ⟨rfl, .refl _⟩
  | @add d now i _ hop hins =>
    obtain ⟨hid, hrows, hlast, -⟩ := insert_eq_ok hins
    obtain ⟨h₁, h₂⟩ := lt_of_nextId hid
    exact .inr ⟨i, h₁, h₂, hlast, by rw [hrows, List.map_append]; rfl⟩
  | header => exact .inl ⟨rfl, .refl _⟩
  | remove => exact .inl ⟨rfl, List.filter_sublist.map _⟩
  | @rewrite id r₀ change ht hr₀ hid hc =>
    refine .inl ⟨rfl, ?_⟩
    have hsame : (s.rewrite id change).rows.map (·.id) = s.rows.map (·.id) := by
      simp only [rewrite, List.map_map]
      refine List.map_congr_left fun r _ => ?_
      by_cases hr : r.id = id <;> simp [hr, hid]
    simp only [hsame, List.Sublist.refl]

theorem lastId_le_after (s : Store) (op : Operation) : s.lastId ≤ (s.after op).lastId := by
  rcases ids_after s op with ⟨hlast, -⟩ | ⟨i, hi, -, hlast, -⟩
  · exact Int.le_of_eq hlast.symm
  · rw [hlast]
    exact Int.le_of_lt hi

/-! ## Runs -/

omit [Url.HostNames] in
/-- What is kept beside a state does not change its run. -/
theorem fst_foldl {α β γ : Type} (f : α → γ → α) (g : α → β → γ → β) (xs : List γ) (a : α) (b : β) :
    (xs.foldl (fun p x => (f p.1 x, g p.1 p.2 x)) (a, b)).1 = xs.foldl f a := by
  induction xs generalizing a b with
  | nil => rfl
  | cons x xs ih => exact ih (f a x) (g a b x)

theorem run_concat (s : Store) (ops : List Operation) (op : Operation) :
    s.run (ops ++ [op]) = (s.run ops).after op := by
  simp only [run, List.foldl_append, List.foldl_cons, List.foldl_nil]

/-- The store can come about by calls alone. -/
def Reachable (s : Store) : Prop := ∃ ops, empty.run ops = s

theorem reachable_empty : Reachable empty := ⟨[], rfl⟩

theorem Reachable.after (h : s.Reachable) (op : Operation) : (s.after op).Reachable := by
  obtain ⟨ops, rfl⟩ := h
  exact ⟨ops ++ [op], run_concat empty ops op⟩

/-- What holds of the empty store and is kept by every call holds of every store. -/
theorem Reachable.induction {P : Store → Prop} (hempty : P empty)
    (hafter : ∀ s op, s.Reachable → P s → P (s.after op)) (h : s.Reachable) : P s := by
  obtain ⟨ops, rfl⟩ := h
  induction ops using List.reverseRecOn with
  | nil => exact hempty
  | append_singleton ops op ih =>
    rw [run_concat]
    exact hafter _ op ⟨ops, rfl⟩ ih

/-- What holds of new rows and is kept by every change holds of every row. -/
theorem Reachable.row_induction {P : Row → Prop} (hnew : ∀ d id now, P (NewDownload.row d id now))
    (hchange : ∀ op r r', P r → Operation.change r op = some r' → P r') (h : s.Reachable) :
    ∀ id r, s.find? id = some r → P r := by
  refine h.induction (P := fun s => ∀ id r, s.find? id = some r → P r)
    (fun _ _ hr => by cases hr) fun s op _ ih id r h' => ?_
  rcases hr : s.find? id with _ | r₀
  · obtain ⟨d, now, -, -, rfl⟩ := find?_after_of_none hr h'
    exact hnew d id now
  · rw [find?_after_of_some op hr] at h'
    unfold Operation.effect at h'
    split at h'
    · exact hchange op r₀ r (ih id r₀ hr) h'
    · exact Option.some.inj h' ▸ ih id r₀ hr

end Store

end Downloads
