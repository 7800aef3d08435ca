import Downloads.Proofs.Store.Sound

/-!
# Completions

Two calls complete a download: one records its success, the other that it was given up. They store
a final status and arm the announcement. Every other call but the claim leaves the flag alone, and
stores no final status.
-/

namespace Downloads

/-- The completion that a call records: the download and its final status. -/
def Operation.completion? : Operation → Option (Int × Status)
  | .markFailed id code _ => some (id, .failed code)
  | .markSuccess id .. => some (id, .success)
  | _ => none

/-- The status of the row is not final. -/
def Row.Unfinished (r : Row) : Prop :=
  ∃ st : Status, st.Storable ∧ r.status = .int st.code ∧ st.isCompleted = false

theorem Status.storable_failed_iff {code : UInt16} :
    (Status.failed code).Storable ↔ isFailureCode code.toNat = true :=
  ⟨fun h => h code rfl, storable_failed⟩

theorem Row.unfinished {r : Row} (st : Status) (hcode : r.status = .int st.code)
    (hopen : st.isCompleted = false) : r.Unfinished := by
  refine ⟨st, Status.storable_of_not_failed ?_, hcode, hopen⟩
  rintro c rfl
  cases hopen

theorem Row.Unfinished.not_completed {r : Row} (h : r.Unfinished) {st : Status} (hst : st.Storable)
    (hcode : r.status = .int st.code) : st.isCompleted = false := by
  obtain ⟨st', hst', hcode', hopen⟩ := h
  rw [Status.eq_of_code hst hst' hcode hcode', hopen]

namespace Operation

variable {op : Operation} {id : Int} {st : Status} {r r' : Row}

theorem completion?_eq_some (h : op.completion? = some (id, st)) :
    (∃ code now, op = .markFailed id code now ∧ st = .failed code) ∨
      ∃ p now, op = .markSuccess id p now ∧ st = .success := by
  cases op <;> cases h
  · exact .inl ⟨_, _, rfl, rfl⟩
  · exact .inr ⟨_, _, rfl, rfl⟩

theorem target?_of_completion (h : op.completion? = some (id, st)) : op.target? = some id := by
  obtain ⟨code, now, rfl, -⟩ | ⟨p, now, rfl, -⟩ := completion?_eq_some h <;> rfl

theorem isCompleted_of_completion (h : op.completion? = some (id, st)) :
    st.isCompleted = true := by
  obtain ⟨code, now, -, rfl⟩ | ⟨p, now, -, rfl⟩ := completion?_eq_some h <;> rfl

/-- A completion stores its status and arms the announcement. -/
theorem change_of_completion (h : op.completion? = some (id, st)) (hst : st.Storable) (r : Row) :
    ∃ r', op.change r = some r' ∧ r'.status = .int st.code ∧ r'.completionNotified = .int 0 := by
  obtain ⟨code, now, rfl, rfl⟩ | ⟨p, now, rfl, rfl⟩ := completion?_eq_some h
  · refine ⟨r.failed code now, ?_, rfl, rfl⟩
    rw [change, if_pos (Status.storable_failed_iff.mp hst)]
  · exact ⟨r.succeeded p now, rfl, rfl, rfl⟩

/-- A call that is neither a completion nor a claim leaves the flag alone, and the status unless it
stores one that is not final. -/
theorem change_of_no_completion (h : op.completion? = none)
    (hclaim : op ≠ .claimCompletionNotice id) (ht : op.target? = some id)
    (hc : op.change r = some r') :
    r'.completionNotified = r.completionNotified ∧ (r'.status = r.status ∨ r'.Unfinished) := by
  cases op with
  | insert => cases ht
  | delete => cases hc
  | markFailed | markSuccess => cases h
  | claimCompletionNotice =>
    cases ht
    exact absurd rfl hclaim
  | markRunning =>
    obtain rfl := Option.some.inj hc
    exact ⟨rfl, .inr (Row.unfinished .running rfl rfl)⟩
  | markWaiting =>
    obtain rfl := Option.some.inj hc
    exact ⟨rfl, .inr (Row.unfinished .runningPaused rfl rfl)⟩
  | markPausedForRetry =>
    simp only [change] at hc
    split at hc <;> cases hc
    · exact ⟨rfl, .inl rfl⟩
    · exact ⟨rfl, .inr (Row.unfinished .runningPaused rfl rfl)⟩
  | recordRedirect =>
    simp only [change] at hc
    split at hc <;> cases hc <;> exact ⟨rfl, .inl rfl⟩
  | addHeader | setControl | updateProgress =>
    obtain rfl := Option.some.inj hc
    exact ⟨rfl, .inl rfl⟩

end Operation

namespace Store

variable {s : Store}

/-- A completion succeeds exactly if the download is there and the status can be read back. -/
theorem isOk_of_completion [Url.HostNames] {op : Operation} {id : Int} {st : Status}
    (h : op.completion? = some (id, st)) :
    (s.apply op).isOk = true ↔ (s.find? id).isSome = true ∧ st.Storable := by
  obtain ⟨code, now, rfl, rfl⟩ | ⟨p, now, rfl, rfl⟩ := Operation.completion?_eq_some h
  · rw [Status.storable_failed_iff]
    rcases hr : s.find? id with _ | r <;>
      by_cases hcode : Status.isFailureCode code.toNat = true <;>
      simp [apply, markFailed, checkFailureCode, hcode, updateRow, hr, bind, Except.bind,
        Except.map, Except.isOk, Except.toBool]
  · rcases hr : s.find? id with _ | r <;>
      simp [apply, markSuccess, updateRow, hr, Status.storable_success, Except.map, Except.isOk,
        Except.toBool]

end Store

end Downloads
