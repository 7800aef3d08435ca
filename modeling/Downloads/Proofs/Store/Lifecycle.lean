import Downloads.Proofs.Store.Journal

/-!
# What a row tells of its past

The status of a download, its failures and the path of its payload tell which calls it has seen
(`Row.Lifecycle`). The path is that of the last success and outlives it, so the status has to tell
whether the payload is still the one to serve. As ids are not used again, the calls that name an id
are those on its download, and the whole journal can be asked for them (`Journal.lifecycle`).
-/

namespace Downloads

namespace Operation

/-- The call records how far the download is. -/
def marks (id : Int) : Operation → Bool
  | .markRunning i _ | .markWaiting i _ | .markPausedForRetry i .. | .markFailed i ..
  | .markSuccess i .. => i == id
  | _ => false

/-- The payload with which the call completes the download. -/
def payload? (id : Int) : Operation → Option CompletedPayload
  | .markSuccess i payload _ => if i = id then some payload else none
  | _ => none

/-- The payload of the last success among the calls. -/
def lastPayload? (id : Int) (calls : List Operation) : Option CompletedPayload :=
  (calls.filterMap (payload? id)).getLast?

variable {op : Operation} {id : Int} {calls : List Operation}

theorem lastPayload?_concat_of_some (calls : List Operation) {p : CompletedPayload}
    (h : op.payload? id = some p) :
    lastPayload? id (calls ++ [op]) = some p := by
  unfold lastPayload?
  rw [List.filterMap_append, List.filterMap_cons_some h]
  exact List.getLast?_concat

theorem lastPayload?_concat_of_none (calls : List Operation) (h : op.payload? id = none) :
    lastPayload? id (calls ++ [op]) = lastPayload? id calls := by
  unfold lastPayload?
  rw [List.filterMap_append, List.filterMap_cons_none h, List.filterMap_nil, List.append_nil]

theorem payload?_eq_some {p : CompletedPayload} :
    op.payload? id = some p ↔ ∃ now, op = .markSuccess id p now := by
  cases op <;> simp [payload?, eq_comm]

/-- A success was recorded if and only if there is a last one. -/
theorem isSome_lastPayload? :
    (lastPayload? id calls).isSome = true ↔ ∃ p now, .markSuccess id p now ∈ calls := by
  unfold lastPayload?
  rw [List.getLast?_isSome, Ne, List.filterMap_eq_nil_iff]
  constructor
  · intro h
    by_contra hnone
    refine h fun op hop => Option.eq_none_iff_forall_ne_some.mpr fun p hp => hnone ?_
    obtain ⟨now, rfl⟩ := payload?_eq_some.mp hp
    exact ⟨p, now, hop⟩
  · rintro ⟨p, now, hop⟩ hnone
    have hsome : (Operation.markSuccess id p now).payload? id = some p :=
      payload?_eq_some.mpr ⟨now, rfl⟩
    rw [hnone _ hop] at hsome
    cases hsome

/-- A call that records how far a download is finds the download. -/
theorem target?_of_marks (h : op.marks id = true) :
    op.target? = some id ∧ op ≠ .claimCompletionNotice id := by
  cases op <;> simp_all [marks, target?]

theorem marks_of_ne (h : op.target? ≠ some id) : op.marks id = false := by
  by_contra hmarks
  exact h (target?_of_marks (Bool.not_eq_false _ ▸ hmarks)).1

/-- A success is one of the marks. -/
theorem payload?_of_not_marks (h : op.marks id = false) : op.payload? id = none := by
  cases op <;> simp_all [marks, payload?]

end Operation

open Operation

/-- What a row tells of the calls that succeeded. -/
structure Row.Lifecycle (id : Int) (calls : List Operation) (r : Row) : Prop where
  started : r.status ≠ .int Status.notStarted.code
  /-- A pending download has no failures and no payload, and nothing was recorded of it yet. -/
  pending : r.status = .int Status.pending.code →
    r.numFailed = .int 0 ∧ r.filePath = none ∧ ∀ op ∈ calls, op.marks id = false
  /-- The path is that of the last success, whatever came after it. -/
  filePath : r.filePath = (lastPayload? id calls).map (·.filePath)
  success : r.status = .int Status.success.code →
    r.numFailed = .int 0 ∧ (lastPayload? id calls).isSome = true

namespace Row.Lifecycle

variable {id : Int} {calls : List Operation} {r r' : Row} {op : Operation}

theorem row (d : NewDownload) (now : Int) (h : ∀ op ∈ calls, op.marks id = false) :
    (d.row id now).Lifecycle id (calls ++ [.insert d now]) := by
  have hmarks : ∀ op ∈ calls ++ [.insert d now], op.marks id = false := by
    intro op hop
    rcases List.mem_append.mp hop with hold | hnew
    · exact h op hold
    · rw [List.mem_singleton.mp hnew]
      rfl
  have hnone : lastPayload? id (calls ++ [.insert d now]) = none := by
    unfold lastPayload?
    rw [List.filterMap_eq_nil_iff.mpr fun op hop => payload?_of_not_marks (hmarks op hop)]
    rfl
  have hpending : (d.row id now).status = .int Status.pending.code := rfl
  constructor
  case started => exact Status.ne_code Status.storable_pending nofun hpending (by decide)
  case pending => exact fun _ => ⟨rfl, rfl, hmarks⟩
  case filePath =>
    rw [hnone]
    rfl
  case success =>
    exact fun h => absurd h (Status.ne_code Status.storable_pending nofun hpending (by decide))

/-- A call that records nothing of the download leaves its row as it was, as far as it tells of
its past. -/
theorem concat_other (h : r.Lifecycle id calls) (hop : op.marks id = false)
    (hstatus : r'.status = r.status) (hfailed : r'.numFailed = r.numFailed)
    (hpath : r'.filePath = r.filePath) : r'.Lifecycle id (calls ++ [op]) := by
  have hlast := lastPayload?_concat_of_none calls (payload?_of_not_marks hop)
  constructor
  case started =>
    rw [hstatus]
    exact h.started
  case pending =>
    intro hpending
    rw [hstatus] at hpending
    obtain ⟨hzero, hnone, hmarks⟩ := h.pending hpending
    refine ⟨hfailed.trans hzero, hpath.trans hnone, ?_⟩
    intro op' hop'
    rcases List.mem_append.mp hop' with hold | hnew
    · exact hmarks op' hold
    · rw [List.mem_singleton.mp hnew]
      exact hop
  case filePath => rw [hpath, hlast, h.filePath]
  case success =>
    intro hsuccess
    rw [hstatus] at hsuccess
    rw [hfailed, hlast]
    exact h.success hsuccess

/-- A status that is neither the first nor a success promises nothing, and the path stays. -/
theorem concat_status (h : r.Lifecycle id calls) (hop : op.payload? id = none) (st : Status)
    (hstorable : st.Storable) (hst : st ≠ .notStarted ∧ st ≠ .pending ∧ st ≠ .success)
    (hstatus : r'.status = .int st.code) (hpath : r'.filePath = r.filePath) :
    r'.Lifecycle id (calls ++ [op]) := by
  obtain ⟨hstarted, hpending, hsuccess⟩ := hst
  constructor
  case started => exact Status.ne_code hstorable nofun hstatus hstarted
  case pending => exact fun h => absurd h (Status.ne_code hstorable nofun hstatus hpending)
  case filePath => rw [hpath, lastPayload?_concat_of_none calls hop, h.filePath]
  case success => exact fun h => absurd h (Status.ne_code hstorable nofun hstatus hsuccess)

theorem concat_success (r : Row) (p : CompletedPayload) (now : Int) :
    (r.succeeded p now).Lifecycle id (calls ++ [.markSuccess id p now]) := by
  have hsome : (Operation.markSuccess id p now).payload? id = some p :=
    payload?_eq_some.mpr ⟨now, rfl⟩
  have hlast := lastPayload?_concat_of_some calls hsome
  have hsuccess : (r.succeeded p now).status = .int Status.success.code := rfl
  constructor
  case started => exact Status.ne_code Status.storable_success nofun hsuccess (by decide)
  case pending =>
    exact fun h => absurd h (Status.ne_code Status.storable_success nofun hsuccess (by decide))
  case filePath =>
    rw [hlast]
    rfl
  case success =>
    intro _
    rw [hlast]
    exact ⟨rfl, rfl⟩

/-- What a row tells stays true with every call that succeeds. -/
theorem concat [Url.HostNames] (h : r.Lifecycle id calls) (hs : r.Sound) (hop : ¬ op.Faulty)
    (hr : op.effect id r = some r') : r'.Lifecycle id (calls ++ [op]) := by
  by_cases ht : op.target? = some id
  · rw [effect_of_target ht] at hr
    have hsame : ∀ c ∉ op.columns, r'.cell? c = r.cell? c := fun c => cell?_of_change hr
    cases op with
    | insert => cases ht
    | delete => cases hr
    | markSuccess i p now =>
      cases ht
      cases hr
      exact concat_success r p now
    | markRunning i now =>
      cases hr
      exact h.concat_status rfl .running nofun (by decide) rfl rfl
    | markWaiting i now =>
      cases hr
      exact h.concat_status rfl .runningPaused nofun (by decide) rfl rfl
    | markPausedForRetry i retryAfter now =>
      obtain ⟨field, hfield⟩ := hs.retryRedirect
      simp only [change, hfield, Cell.readInt, Option.some.injEq] at hr
      subst hr
      exact h.concat_status rfl .runningPaused nofun (by decide) rfl rfl
    | markFailed i code now =>
      have hcode : Status.isFailureCode code.toNat = true := by
        unfold Faulty at hop
        simp only [Status.isFailureCode, Bool.and_eq_true, decide_eq_true_eq]
        omega
      simp only [change, hcode, if_true, Option.some.injEq] at hr
      subst hr
      exact h.concat_status rfl (.failed code) (Status.storable_failed hcode) (by simp) rfl rfl
    | addHeader | setControl | recordRedirect | updateProgress | claimCompletionNotice =>
      have hstatus := hsame .status (by simp [columns])
      have hfailed := hsame .numFailed (by simp [columns])
      have hpath := hsame .filePath (by simp [columns])
      refine h.concat_other rfl (Option.some.inj hstatus) (Option.some.inj hfailed) ?_
      exact Option.map_injective (fun _ _ => Cell.text.inj) hpath
  · rw [effect_of_ne ht] at hr
    obtain rfl := Option.some.inj hr
    exact h.concat_other (marks_of_ne ht) rfl rfl rfl

end Row.Lifecycle

namespace Journal

/-- Every row tells of the calls, and calls were recorded only of downloads that had an id. -/
structure Recorded (j : Journal) : Prop where
  known : ∀ op ∈ j.calls, ∀ id, op.marks id = true → id ≤ j.store.lastId
  lifecycle : ∀ id r, j.store.find? id = some r → r.Lifecycle id j.calls

variable {j : Journal} {op : Operation} {o : Outcome} {s : Store}

theorem Recorded.failed (h : j.Recorded) (op : Operation) (e : StoreError) :
    (j.note j.store ⟨op, .error e⟩).Recorded := by
  have hcalls := j.calls_note_error j.store op e
  exact ⟨hcalls ▸ h.known, hcalls ▸ h.lifecycle⟩

theorem recorded_empty : empty.Recorded where
  known _ hop := by cases hop
  lifecycle _ _ hr := by cases hr

variable [Url.HostNames]

theorem Recorded.done (h : j.Recorded) (hj : j.store.Reachable)
    (hok : j.store.apply op = .ok (o, s)) : (j.note s ⟨op, .ok o⟩).Recorded := by
  have hafter : j.store.after op = s := Store.after_of_ok hok
  have hcalls := j.calls_note_ok s op o
  have hlast : j.store.lastId ≤ s.lastId := hafter ▸ Store.lastId_le_after j.store op
  constructor
  case known =>
    intro op' hop' id hmarks
    show id ≤ s.lastId
    rw [hcalls] at hop'
    rcases List.mem_append.mp hop' with hold | hnew
    · have hle := h.known op' hold id hmarks
      omega
    · obtain rfl := List.mem_singleton.mp hnew
      obtain ⟨ht, hclaim⟩ := target?_of_marks hmarks
      obtain ⟨r, hr⟩ := exists_find?_of_ok hj hok ht hclaim
      have hle : id ≤ j.store.lastId := hj.ordered.id_le_lastId hr
      omega
  case lifecycle =>
    intro id r hr
    rw [hcalls]
    change s.find? id = some r at hr
    rw [← hafter] at hr
    rcases hold : j.store.find? id with _ | r₀
    · -- The id is new, so no call has named it yet.
      obtain ⟨d, now, rfl, hins, rfl⟩ := Store.find?_after_of_none hold hr
      have hlt := (Store.lt_of_nextId (Store.insert_eq_ok hins).1).1
      refine .row d now fun op' hop' => ?_
      by_contra hmarks
      have hle := h.known op' hop' id (Bool.not_eq_false _ ▸ hmarks)
      omega
    · rw [Store.find?_after_of_some op hold] at hr
      exact (h.lifecycle id r₀ hold).concat (hj.sound hold) (of_apply_ok hj hok).1 hr

theorem recorded (as : List Attempt) : (ofAttempts as).Recorded :=
  induction recorded_empty (fun _ _ _ _ hj h hok => h.done hj hok)
    (fun _ op e h => h.failed op e) as

end Journal

end Downloads
