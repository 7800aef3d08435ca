import Downloads.Proofs.Store.Atomicity

/-!
# What a call may change

A call fails for one of three reasons: its arguments are never stored, its download does not exist,
or no id is left for a new one (`Operation.answers_apply`). If it succeeds, it leaves the rows and
the headers of all other downloads alone, and of its own download it changes certain columns only
(`Operation.Frames`).
-/

namespace Downloads

/-- The ids of an ordered store go on after the last one, unless none is left. -/
theorem Store.Ordered.nextId_eq {s : Store} (hs : s.Ordered) :
    s.nextId =
      if s.lastId < maxInt64 then .ok (s.lastId + 1) else .error (.database (.refused .full)) := by
  have htop : s.rows.foldl (fun m r => max m r.id) s.lastId = s.lastId := by
    have hle := hs.le_lastId
    generalize s.rows = rows at hle
    induction rows with
    | nil => rfl
    | cons r rows ih =>
      rw [List.foldl_cons, Int.max_eq_left (hle r List.mem_cons_self)]
      exact ih fun x hx => hle x (List.mem_cons_of_mem r hx)
  simp only [Store.nextId, htop]

theorem Store.Ordered.of_nextId_error {s : Store} (hs : s.Ordered) {e : StoreError}
    (h : s.nextId = .error e) : e = .database (.refused .full) ∧ maxInt64 ≤ s.lastId := by
  rw [hs.nextId_eq] at h
  split at h <;> cases h
  exact ⟨rfl, by omega⟩

namespace Operation

/-- The arguments of the call are never stored, whatever the store holds. -/
def Faulty [Url.HostNames] : Operation → Prop
  | .insert d _ => ∃ e, Url.parse d.uri = .error e
  | .addHeader _ name _ => Text.isBlankText name = true
  | .markFailed _ code _ => ¬ (400 ≤ code.toNat ∧ code.toNat ≤ 599)
  | _ => False

/-- The download that the call writes does not exist. A claim needs no download. -/
def Misses (s : Store) (id : Int) (op : Operation) : Prop :=
  op.target? = some id ∧ s.find? id = none ∧ op ≠ .claimCompletionNotice id

/-- The columns that a call may change in the row of its download. -/
def columns : Operation → List Column
  | .insert .. | .addHeader .. | .delete _ => []
  | .setControl .. => [.control, .lastModifiedMs]
  | .markRunning .. | .markWaiting .. => [.status, .lastModifiedMs]
  | .markPausedForRetry .. => [.status, .numFailed, .retryRedirect, .lastModifiedMs]
  | .recordRedirect _ => [.retryRedirect]
  | .markFailed .. => [.status, .completionNotified, .lastModifiedMs]
  | .markSuccess .. =>
    [.status, .completionNotified, .lastModifiedMs, .numFailed, .retryRedirect, .totalBytes,
      .currentBytes, .filePath, .mimeType]
  | .updateProgress .. => [.currentBytes, .totalBytes]
  | .claimCompletionNotice _ => [.completionNotified]

/-- What becomes of the headers of the download of a call. -/
def headersAfter (headers : List (String × String)) : Operation → List (String × String)
  | .addHeader _ name value => headers ++ [(name, value)]
  | .delete _ => []
  | _ => headers

/-- What a call that succeeds changes, and what it leaves alone. -/
structure Frames (op : Operation) (s : Store) (o : Outcome) (s' : Store) : Prop where
  /-- Other downloads keep their rows and headers. -/
  others : ∀ id, op.target? ≠ some id → o ≠ .inserted id →
    s'.find? id = s.find? id ∧ s'.headersOf id = s.headersOf id
  /-- Unless it is removed, the row of the download changes in the columns of the call only. -/
  row : ∀ id r, op.target? = some id → op ≠ .delete id → s.find? id = some r →
    ∃ r', s'.find? id = some r' ∧ ∀ c ∉ op.columns, r'.cell? c = r.cell? c
  headers : ∀ id, op.target? = some id → s'.headersOf id = op.headersAfter (s.headersOf id)
  deleted : ∀ id, op = .delete id → s'.find? id = none
  /-- A call on a download that does not exist changes nothing. -/
  absent : ∀ id, op.target? = some id → s.find? id = none → s' = s
  /-- A new download has an id of its own, the row that its caller asked for, and its headers. -/
  inserted : ∀ d now, op = .insert d now → ∃ id, o = .inserted id ∧ s.find? id = none ∧
    s'.find? id = some (d.row id now) ∧ s'.headersOf id = d.headers

variable {op : Operation} {s : Store} {id : Int} {r : Row}

theorem not_misses (ht : op.target? = some id) (hr : s.find? id = some r) (i : Int) :
    ¬ op.Misses s i := by
  rintro ⟨hi, hnone, -⟩
  rw [ht, Option.some.injEq] at hi
  rw [← hi, hr] at hnone
  cases hnone

/-- A column that a call does not write keeps its value. -/
theorem cell?_of_change {r' : Row} (h : op.change r = some r') {c : Column} (hc : c ∉ op.columns) :
    r'.cell? c = r.cell? c := by
  cases op with
  | insert | addHeader => rw [Option.some.inj h]
  | delete => cases h
  | setControl | markRunning | markWaiting | markSuccess | updateProgress =>
    cases h
    cases c <;> first | rfl | simp [columns] at hc
  | markPausedForRetry | recordRedirect =>
    simp only [change] at h
    split at h <;> cases h
    · rfl
    · cases c <;> first | rfl | simp [columns] at hc
  | markFailed | claimCompletionNotice =>
    cases h
    split
    · cases c <;> first | rfl | simp [columns] at hc
    · rfl

theorem exists_change (r : Row) (hop : ∀ i, op ≠ .delete i) : ∃ r', op.change r = some r' := by
  cases op with
  | delete i => exact absurd rfl (hop i)
  | markPausedForRetry | recordRedirect =>
    simp only [change]
    split <;> exact ⟨_, rfl⟩
  | _ => exact ⟨_, rfl⟩

variable [Url.HostNames]

/-- How the store answers a call: with an error for one of three reasons, or with success. -/
inductive Answers (op : Operation) (s : Store) : Except StoreError (Outcome × Store) → Prop where
  | faulty (h : op.Faulty) (f : InputFault) : Answers op s (.error (.invalidInput f))
  | missing (h : ¬ op.Faulty) {id : Int} (hid : op.Misses s id) :
      Answers op s (.error (.notFound id))
  | full (h : ¬ op.Faulty) {d : NewDownload} {now : Int} (hop : op = .insert d now)
      (hlast : maxInt64 ≤ s.lastId) : Answers op s (.error (.database (.refused .full)))
  | done (h : ¬ op.Faulty) (hid : ∀ id, ¬ op.Misses s id) (o : Outcome) (s' : Store) :
      Answers op s (.ok (o, s'))

/-- A call that writes the row of its download fails only if there is none. -/
theorem Answers.of_update (hop : ¬ op.Faulty) (ht : op.target? = some id)
    (hclaim : op ≠ .claimCompletionNotice id) (change : Row → Row) (o : Outcome) :
    op.Answers s ((s.updateRow id change).map fun s => (o, s)) := by
  rcases hr : s.find? id with _ | r
  · rw [Store.updateRow_of_none hr]
    exact .missing hop ⟨ht, hr, hclaim⟩
  · rw [Store.updateRow_of_some hr]
    exact .done hop (not_misses ht hr) _ _

theorem Answers.of_retry (hs : s.Reachable) (hop : ¬ op.Faulty) (ht : op.target? = some id)
    (hclaim : op ≠ .claimCompletionNotice id) (change : Nat × Nat → Row → Row)
    (o : Nat × Nat → Outcome) :
    op.Answers s ((s.packedRetry id).bind fun p =>
      (s.updateRow id (change p)).map fun s => (o p, s)) := by
  rcases hr : s.find? id with _ | r
  · rw [Store.packedRetry_of_none hr]
    exact .missing hop ⟨ht, hr, hclaim⟩
  · obtain ⟨n, hn⟩ := (hs.sound hr).retryRedirect
    rw [Store.packedRetry_of_some hr, hn]
    exact .of_update hop ht hclaim _ _

theorem answers_insert (hs : s.Ordered) (d : NewDownload) (now : Int) :
    (Operation.insert d now).Answers s (s.apply (.insert d now)) := by
  simp only [Store.apply, Store.insert, NewDownload.check, bind]
  rcases hurl : Url.parse d.uri with e | url
  · have hop : (Operation.insert d now).Faulty := ⟨e, hurl⟩
    exact .faulty hop _
  have hop : ¬ (Operation.insert d now).Faulty := by
    rintro ⟨e, he⟩
    rw [hurl] at he
    cases he
  simp only [Except.bind]
  rcases hid : s.nextId with e | id
  · obtain ⟨rfl, hlast⟩ := hs.of_nextId_error hid
    exact .full hop rfl hlast
  · exact .done hop (fun _ hid => by cases hid.1) _ _

theorem answers_addHeader (s : Store) (id : Int) (name value : String) :
    (Operation.addHeader id name value).Answers s (s.apply (.addHeader id name value)) := by
  have hop : (Operation.addHeader id name value).Faulty ↔ Text.isBlankText name = true := Iff.rfl
  simp only [Store.apply, Store.addHeader, Store.checkHeaderName, bind]
  by_cases hname : Text.isBlankText name = true
  · simp only [hname, if_true]
    exact .faulty (hop.mpr hname) _
  simp only [hname]
  rcases hr : s.find? id with _ | r
  · exact .missing (mt hop.mp hname) ⟨rfl, hr, by simp⟩
  · exact .done (mt hop.mp hname) (not_misses rfl hr) _ _

theorem answers_delete (s : Store) (id : Int) :
    (Operation.delete id).Answers s (s.apply (.delete id)) := by
  have hop : ¬ (Operation.delete id).Faulty := not_false
  simp only [Store.apply, Store.delete]
  rcases hr : s.find? id with _ | r
  · exact .missing hop ⟨rfl, hr, by simp⟩
  · exact .done hop (not_misses rfl hr) _ _

theorem answers_markFailed (s : Store) (id : Int) (code : UInt16) (now : Int) :
    (Operation.markFailed id code now).Answers s (s.apply (.markFailed id code now)) := by
  simp only [Store.apply, Store.markFailed, Store.checkFailureCode, bind]
  have hcode : Status.isFailureCode code.toNat = true ↔
      ¬ (Operation.markFailed id code now).Faulty := by
    simp only [Status.isFailureCode, Faulty, Bool.and_eq_true, decide_eq_true_eq]
    omega
  by_cases h : Status.isFailureCode code.toNat = true
  · simp only [h, if_true]
    exact .of_update (hcode.mp h) rfl (by simp) _ _
  · simp only [h]
    exact .faulty (not_not.mp fun hop => h (hcode.mpr hop)) _

/-- **How a call can fail.** A store that came about by calls answers a call with success, unless
the arguments are at fault, the download does not exist or no id is left. -/
theorem answers_apply (hs : s.Reachable) (op : Operation) : op.Answers s (s.apply op) := by
  cases op with
  | insert d now => exact answers_insert hs.ordered d now
  | addHeader id name value => exact answers_addHeader s id name value
  | delete id => exact answers_delete s id
  | markFailed id code now => exact answers_markFailed s id code now
  | markPausedForRetry id retryAfter now =>
    have hop : ¬ (Operation.markPausedForRetry id retryAfter now).Faulty := not_false
    rw [s.apply_markPausedForRetry]
    exact .of_retry hs hop rfl (by simp)
      (fun p r => r.pausedForRetry (PackedRetry.pack (retryAfter.getD 0) p.2) now) fun _ => .done
  | recordRedirect id =>
    have hop : ¬ (Operation.recordRedirect id).Faulty := not_false
    rw [s.apply_recordRedirect]
    exact .of_retry hs hop rfl (by simp)
      (fun p r => r.withRetry (PackedRetry.pack p.1 ((p.2 + 1) % (PackedRetry.maxRedirects + 1))))
      fun p => .redirects ((p.2 + 1) % (PackedRetry.maxRedirects + 1))
  | claimCompletionNotice id =>
    have hop : ¬ (Operation.claimCompletionNotice id).Faulty := not_false
    refine .done hop (fun i hi => ?_) _ _
    obtain ⟨ht, -, hclaim⟩ := hi
    cases ht
    exact hclaim rfl
  | setControl | markRunning | markWaiting | markSuccess | updateProgress =>
    refine Answers.of_update ?_ ?_ ?_ _ _
    · exact not_false
    · rfl
    · simp

/-- A call that succeeds has arguments that can be stored, and does not miss its download. -/
theorem of_apply_ok (hs : s.Reachable) {o : Outcome} {s' : Store} (h : s.apply op = .ok (o, s')) :
    ¬ op.Faulty ∧ ∀ id, ¬ op.Misses s id := by
  have hanswers := answers_apply hs op
  rw [h] at hanswers
  cases hanswers with
  | done hop hid => exact ⟨hop, hid⟩

theorem exists_find?_of_ok (hs : s.Reachable) {o : Outcome} {s' : Store}
    (h : s.apply op = .ok (o, s')) (ht : op.target? = some id)
    (hclaim : op ≠ .claimCompletionNotice id) : ∃ r, s.find? id = some r := by
  rcases hr : s.find? id with _ | r
  · exact absurd ⟨ht, hr, hclaim⟩ ((of_apply_ok hs h).2 id)
  · exact ⟨r, rfl⟩

theorem exists_apply_ok (hs : s.Reachable) (hop : ¬ op.Faulty) (ht : op.target? = some id)
    (hr : s.find? id = some r) : ∃ o s', s.apply op = .ok (o, s') := by
  have hanswers := answers_apply hs op
  generalize s.apply op = answer at hanswers
  cases hanswers with
  | faulty hfaulty => exact absurd hfaulty hop
  | missing _ hmisses => exact absurd hmisses (not_misses ht hr _)
  | full _ hinsert =>
    rw [hinsert] at ht
    cases ht
  | done _ _ o s' => exact ⟨o, s', rfl⟩

end Operation

/-! ## What a call leaves alone -/

namespace Store

variable {s s' : Store} {op : Operation}

theorem headersOf_append (s : Store) (i : Int) (new : List (String × String)) {s' : Store}
    (h : s'.headers = s.headers ++ new.map fun h => ⟨i, h.1, h.2⟩) (id : Int) :
    s'.headersOf id = s.headersOf id ++ if i = id then new else [] := by
  unfold headersOf
  rw [h, List.filter_append, List.map_append, List.filter_map, List.map_map]
  by_cases hi : i = id <;> simp [Function.comp_def, hi]

theorem addHeader_eq_ok {id : Int} {name value : String} (h : s.addHeader id name value = .ok s') :
    s' = { s with headers := s.headers ++ [⟨id, name, value⟩] } := by
  simp only [addHeader, bind, Except.bind] at h
  split at h
  · cases h
  split at h <;> cases h
  rfl

theorem delete_eq_ok {id : Int} (h : s.delete id = .ok s') :
    s' = { s with
      rows := s.rows.filter fun r => r.id != id
      headers := s.headers.filter fun h => h.download != id } := by
  unfold delete at h
  split at h <;> cases h
  rfl

section

variable [Url.HostNames]

/-- Every header points to a row. -/
theorem Reachable.owned (h : s.Reachable) :
    ∀ x ∈ s.headers, (s.find? x.download).isSome = true := by
  refine h.induction (P := fun s => ∀ x ∈ s.headers, (s.find? x.download).isSome = true) nofun
    fun s op _ ih => ?_
  generalize hs' : s.after op = s'
  have hacts := acts_after s op
  rw [hs'] at hacts
  intro x hx
  cases hacts with
  | none => exact ih x hx
  | @add d now i _ hop hins =>
    obtain ⟨-, -, -, hheaders⟩ := insert_eq_ok hins
    rw [find?_insert hins]
    split
    · rfl
    · rename_i hne
      rw [hheaders] at hx
      rcases List.mem_append.mp hx with hold | hnew
      · exact ih x hold
      · obtain ⟨y, -, rfl⟩ := List.mem_map.mp hnew
        exact absurd rfl hne
  | header hop hid =>
    rcases List.mem_append.mp hx with hold | hnew
    · exact ih x hold
    · rw [List.mem_singleton.mp hnew]
      exact hid
  | @remove i hop hid =>
    obtain ⟨hold, hne⟩ := List.mem_filter.mp hx
    show ((s.rows.filter _).find? _).isSome = true
    rw [find?_filter_ne, if_neg (by simpa using hne)]
    exact ih x hold
  | rewrite ht hr hid hc =>
    rw [find?_rewrite hid, Option.isSome_map]
    exact ih x hx

/-- A download that does not exist has no headers. -/
theorem Reachable.headersOf_of_none (h : s.Reachable) {id : Int} (hid : s.find? id = none) :
    s.headersOf id = [] := by
  have hnone : ∀ x ∈ s.headers, ¬ (x.download == id) = true := by
    intro x hx hxid
    have howned := h.owned x hx
    rw [beq_iff_eq.mp hxid, hid] at howned
    cases howned
  rw [headersOf, List.filter_eq_nil_iff.mpr hnone]
  rfl

/-- A call that is not about headers leaves them alone. -/
theorem headers_after (s : Store) (op : Operation) (hinsert : ∀ d now, op ≠ .insert d now)
    (hheader : ∀ id name value, op ≠ .addHeader id name value) (hdelete : ∀ id, op ≠ .delete id) :
    (s.after op).headers = s.headers := by
  generalize hs' : s.after op = s'
  have hacts := acts_after s op
  rw [hs'] at hacts
  cases hacts with
  | none => rfl
  | add hop => exact absurd hop (hinsert _ _)
  | header hop => exact absurd hop (hheader _ _ _)
  | remove hop => exact absurd hop (hdelete _)
  | rewrite => rfl

/-- The headers of the download of a call, and those of the others. -/
theorem headersOf_apply {o : Outcome} (h : s.apply op = .ok (o, s')) (id : Int) :
    (op.target? = some id → s'.headersOf id = op.headersAfter (s.headersOf id)) ∧
      (op.target? ≠ some id → o ≠ .inserted id → s'.headersOf id = s.headersOf id) := by
  have hafter := after_of_ok h
  cases op with
  | insert d now =>
    refine ⟨nofun, fun _ ho => ?_⟩
    rcases hs : s.insert d now with e | ⟨i, s''⟩ <;> simp only [apply, hs] at h <;> cases h
    have hne : i ≠ id := fun hi => ho (hi ▸ rfl)
    rw [headersOf_append s i d.headers (insert_eq_ok hs).2.2.2, if_neg hne, List.append_nil]
  | addHeader i name value =>
    rcases hs : s.addHeader i name value with e | s'' <;> simp only [apply, hs] at h <;> cases h
    have hheaders : s'.headersOf id = _ :=
      headersOf_append s i [(name, value)] (by rw [addHeader_eq_ok hs]; rfl) id
    refine ⟨fun ht => ?_, fun ht _ => ?_⟩
    · cases ht
      rw [hheaders, if_pos rfl]
      rfl
    · have hne : i ≠ id := fun hi => ht (hi ▸ rfl)
      rw [hheaders, if_neg hne, List.append_nil]
  | delete i =>
    rcases hs : s.delete i with e | s'' <;> simp only [apply, hs] at h <;> cases h
    rw [delete_eq_ok hs]
    refine ⟨fun ht => ?_, fun ht _ => ?_⟩
    · cases ht
      simp [headersOf, Operation.headersAfter]
    · have hne : i ≠ id := fun hi => ht (hi ▸ rfl)
      unfold headersOf
      rw [List.filter_filter]
      congr 1
      refine List.filter_congr fun h _ => ?_
      by_cases hid : h.download = id <;> simp [hid, Ne.symm hne]
  | _ =>
    have hheaders : s'.headers = s.headers := by
      rw [← hafter]
      exact headers_after s _ (by simp) (by simp) (by simp)
    have hsame : s'.headersOf id = s.headersOf id := by
      unfold headersOf
      rw [hheaders]
    exact ⟨fun _ => hsame, fun _ _ => hsame⟩

theorem apply_insert_eq_ok {d : NewDownload} {now : Int} {o : Outcome}
    (h : s.apply (.insert d now) = .ok (o, s')) :
    ∃ i, o = .inserted i ∧ s.insert d now = .ok (i, s') := by
  rcases hs : s.insert d now with e | ⟨i, s''⟩ <;> (simp only [apply, hs] at h; cases h)
  exact ⟨i, rfl, rfl⟩

/-- A call leaves the rows of other downloads alone. -/
theorem find?_apply_of_ne {o : Outcome} (h : s.apply op = .ok (o, s')) {id : Int}
    (ht : op.target? ≠ some id) (ho : o ≠ .inserted id) : s'.find? id = s.find? id := by
  rcases hr : s.find? id with _ | r
  · rcases hr' : s'.find? id with _ | r'
    · rfl
    · rw [← after_of_ok h] at hr'
      obtain ⟨d, now, rfl, hins, -⟩ := find?_after_of_none hr hr'
      obtain ⟨i, rfl, hi⟩ := apply_insert_eq_ok h
      rw [hins] at hi
      cases hi
      exact absurd rfl ho
  · rw [← after_of_ok h, find?_after_of_some op hr, Operation.effect_of_ne ht]

/-- **The frame of a call.** A call that succeeds changes nothing but the headers and the columns of
its own download that are its business. -/
theorem Reachable.frames (h : s.Reachable) {o : Outcome} (hok : s.apply op = .ok (o, s')) :
    op.Frames s o s' := by
  have hafter := after_of_ok hok
  constructor
  case others =>
    intro id ht ho
    exact ⟨find?_apply_of_ne hok ht ho, (headersOf_apply hok id).2 ht ho⟩
  case row =>
    intro id r ht hdelete hr
    have hne : ∀ i, op ≠ .delete i := by
      rintro i rfl
      cases ht
      exact hdelete rfl
    obtain ⟨r', hr'⟩ := Operation.exists_change r hne
    refine ⟨r', ?_, fun c hc => Operation.cell?_of_change hr' hc⟩
    rw [← hafter, find?_after_of_some op hr, Operation.effect_of_target ht, hr']
  case headers => exact fun id ht => (headersOf_apply hok id).1 ht
  case deleted =>
    rintro id rfl
    rcases hs : s.delete id with e | s'' <;> simp only [apply, hs] at hok <;> cases hok
    rw [delete_eq_ok hs]
    exact (find?_filter_ne s.rows id id).trans (if_pos rfl)
  case absent =>
    intro id ht hr
    obtain rfl : op = .claimCompletionNotice id := by
      by_contra hne
      exact (Operation.of_apply_ok h hok).2 id ⟨ht, hr, hne⟩
    simp only [apply, claimCompletionNotice, hr] at hok
    cases hok
    rfl
  case inserted =>
    rintro d now rfl
    obtain ⟨i, rfl, hins⟩ := apply_insert_eq_ok hok
    have hnew : s.find? i = none := find?_of_nextId (insert_eq_ok hins).1
    refine ⟨i, rfl, hnew, by rw [find?_insert hins, if_pos rfl], ?_⟩
    rw [headersOf_append s i d.headers (insert_eq_ok hins).2.2.2, h.headersOf_of_none hnew,
      if_pos rfl, List.nil_append]

/-- **Errors and frames of calls.** In a store that came about by calls, a call does what its
statements do, wherever the engine stops them, and a call that fails leaves the store as it was. It
fails for its arguments, because its download does not exist, or because no id is left, and for
nothing else. If it succeeds, it changes its own download only, and there its own columns. -/
theorem Reachable.session_frames (h : s.Reachable) (op : Operation) :
    Session.Implements op.session s (s.apply op) ∧
      ((∃ f, s.apply op = .error (.invalidInput f)) ↔ op.Faulty) ∧
      (∀ id, s.apply op = .error (.notFound id) ↔ ¬ op.Faulty ∧ op.Misses s id) ∧
      (∀ e, s.apply op = .error (.database e) →
        e = .refused .full ∧ maxInt64 ≤ s.lastId ∧ ∃ d now, op = .insert d now) ∧
      ∀ o s', s.apply op = .ok (o, s') → op.Frames s o s' := by
  refine ⟨Session.implements_session h.ordered op, ?_, ?_, ?_, fun o s' => h.frames⟩
  all_goals
    have hanswers := Operation.answers_apply h op
    generalize s.apply op = answer at hanswers
  · cases hanswers with
    | faulty hop f => exact iff_of_true ⟨f, rfl⟩ hop
    | missing hop | full hop | done hop => exact iff_of_false (by simp) hop
  · intro id
    cases hanswers with
    | faulty hop f => exact iff_of_false (by simp) fun h => h.1 hop
    | @missing hop i hi =>
      rw [Except.error.injEq, StoreError.notFound.injEq]
      constructor
      · rintro rfl
        exact ⟨hop, hi⟩
      · rintro ⟨-, hid⟩
        exact Option.some.inj (hi.1.symm.trans hid.1)
    | full hop hinsert =>
      refine iff_of_false (by simp) ?_
      rintro ⟨-, ht, -⟩
      rw [hinsert] at ht
      cases ht
    | done hop hid => exact iff_of_false (by simp) fun h => hid id h.2
  · intro e he
    cases hanswers with
    | full hop hinsert hlast =>
      cases he
      exact ⟨rfl, hlast, _, _, hinsert⟩
    | faulty | missing | done => cases he

end

/-- A download with a header. -/
def headedDownload : NewDownload :=
  { uri := "https://example.com/a", headers := [("Accept", "text/plain")] }

/-- Two downloads, of which one failed before. -/
def pairStore : Store :=
  empty.run [.insert headedDownload 0, .insert headedDownload 0, .markPausedForRetry 1 (some 7) 1]

theorem session_frames_pairStore :
    pairStore.Reachable ∧
      (∃ s', pairStore.apply (.markSuccess 1 ⟨5, "a", none⟩ 2) = .ok (.done, s') ∧
        (Operation.markSuccess 1 ⟨5, "a", none⟩ 2).Frames pairStore .done s') ∧
      (∃ f, pairStore.apply (.markFailed 1 399 2) = .error (.invalidInput f)) ∧
      pairStore.apply (.delete 3) = .error (.notFound 3) ∧
      -- The end of the transaction is refused, after its statements ran.
      (∃ e db, (Operation.delete 1).session ⟨pairStore, [none, none, none, some .locked]⟩ =
        .error e db ∧ db.store = pairStore) := by
  have hreach : pairStore.Reachable := ⟨_, rfl⟩
  obtain ⟨-, -, -, -, hframes⟩ := hreach.session_frames (.markSuccess 1 ⟨5, "a", none⟩ 2)
  obtain ⟨-, hfaulty, -⟩ := hreach.session_frames (.markFailed 1 399 2)
  obtain ⟨-, -, hmissing, -⟩ := hreach.session_frames (.delete 3)
  obtain ⟨hdelete, -⟩ := hreach.session_frames (.delete 1)
  have hcode : (Operation.markFailed 1 399 2).Faulty := by
    show ¬ (400 ≤ (399 : UInt16).toNat ∧ (399 : UInt16).toNat ≤ 599)
    decide
  have hsuccess : pairStore.apply (.markSuccess 1 ⟨5, "a", none⟩ 2) =
      .ok (.done, pairStore.after (.markSuccess 1 ⟨5, "a", none⟩ 2)) := by decide +kernel
  have habsent : pairStore.find? 3 = none := by decide +kernel
  have hrefused : (match (Operation.delete 1).session ⟨pairStore, [none, none, none, some .locked]⟩
      with | .ok _ _ => false | .error _ _ => true) = true := by decide +kernel
  refine ⟨hreach, ⟨_, hsuccess, hframes _ _ hsuccess⟩, hfaulty.mpr hcode,
    (hmissing 3).mpr ⟨not_false, rfl, habsent, by simp⟩, ?_⟩
  rcases hrun : (Operation.delete 1).session ⟨pairStore, [none, none, none, some .locked]⟩
    with ⟨o, db⟩ | ⟨e, db⟩
  · rw [hrun] at hrefused
    cases hrefused
  · exact ⟨e, db, rfl, hdelete.failsTo _ _ _ hrun⟩

end Store

end Downloads
