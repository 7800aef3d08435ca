import Downloads.Proofs.Schedule.Interleaving

/-!
# Notices from stale listings

A claim names a download, and no status. So a tick that listed one completion may claim the notice
of a later one, and then hands out the old status. Of a claimed row exactly this can be said: since
it last completed there is one notice, and that carries the status that its listing showed.
-/

namespace Downloads

namespace Log

variable {id : Int} {log : Log}

/-- A notice with the status was handed out since the download last completed. -/
def AnnouncedAs (id : Int) (st : Status) (log : Log) : Prop :=
  ∃ n t, Entry.announced n t ∈ log.since id ∧ n.id = id ∧ n.status = st

/-- A download with one notice was announced with the status of that notice. -/
theorem announcedAs_iff {n : Notice} {t : Nat} (h : log.noticesSince id = [.announced n t])
    {st : Status} : log.AnnouncedAs id st ↔ n.status = st := by
  have hmem : ∀ m u, Entry.announced m u ∈ log.since id ∧ m.id = id ↔ m = n ∧ u = t := by
    intro m u
    have hiff : Entry.announced m u ∈ log.noticesSince id ↔
        Entry.announced m u ∈ log.since id ∧ m.id = id := by
      unfold noticesSince
      rw [List.mem_filter, Entry.announces_announced, beq_iff_eq]
    rw [← hiff, h, List.mem_singleton, Entry.announced.injEq]
  constructor
  · rintro ⟨m, u, hm, hid, hstatus⟩
    obtain ⟨rfl, -⟩ := (hmem m u).mp ⟨hm, hid⟩
    exact hstatus
  · intro hstatus
    obtain ⟨hn, hid⟩ := (hmem n t).mpr ⟨rfl, rfl⟩
    exact ⟨n, t, hn, hid, hstatus⟩

end Log

namespace Interleaving

/-- **Notices of claimed rows.** However calls and the steps of any ticks interleave, a row with a
final status that is claimed has exactly one notice since it last completed. That notice carries the
status of the row if and only if the listing that it comes from showed the download with that
status, and so if the listing is not older than the last completion. -/
theorem announcedAs_of_claimed [Url.HostNames] (ss : List Step)
    (hss : ∀ id, Step.call (.claimCompletionNotice id) ∉ ss) {id code : Int} {r : Row} {st : Status}
    (hr : (run ss).store.find? id = some r) (hcode : r.status = .int code)
    (hst : Status.ofCode? code = some st) (hdone : st.isCompleted = true)
    (hflag : r.completionNotified = .int 1) :
    let log := (run ss).log
    log.status? id = some st ∧
      ∃ n t, log.noticesSince id = [.announced n t] ∧ t ≤ log.length ∧
        (log.AnnouncedAs id st ↔ (log.asOf t).status? id = some st) ∧
        (log.length - (log.since id).length ≤ t → log.AnnouncedAs id st) := by
  intro log
  have hinv : Inv (run ss) := inv_run ss hss
  obtain ⟨st', hst', hcode'⟩ := (hinv.reachable.sound hr).status
  obtain rfl : st' = st := by
    rw [hcode, Cell.int.injEq] at hcode'
    rw [hcode', Status.ofCode?_code hst'] at hst
    exact Option.some.inj hst
  have hrecorded := hinv.recorded id r hr
  have hstatus : log.status? id = some st' := hrecorded.status st' hst' hcode' hdone
  have hisSome : (log.status? id).isSome := Option.isSome_of_eq_some hstatus
  have hpending : ¬ log.pending id = true := by
    rw [← hrecorded.flag hisSome, hflag]
    decide
  have hanswered : log.Answered id := hinv.fair.answered hisSome
  unfold Log.Answered at hanswered
  rw [if_neg hpending] at hanswered
  obtain ⟨n, t, hnotices, -, ht, hlisted⟩ := hanswered
  refine ⟨hstatus, n, t, hnotices, ht, ?_, fun hfresh => ?_⟩
  · rw [Log.announcedAs_iff hnotices, hlisted, Option.some.injEq]
  · rw [Log.status?_asOf hfresh, hstatus] at hlisted
    exact (Log.announcedAs_iff hnotices).mpr (Option.some.inj hlisted).symm

/-- A tick lists a failure, and visits it after the download succeeded. -/
def staleSteps : List Step :=
  [.call (.insert announcedDownload 0), .call (.markFailed 1 404 1), .list,
    .call (.markSuccess 1 ⟨1, "a", none⟩ 2), .visit 0]

/-- The row that they leave. -/
def staleRow : Row :=
  { announcedDownload.row 1 0 with
    status := .int 200
    lastModifiedMs := .int 2
    totalBytes := .int 1
    currentBytes := .int 1
    filePath := some "a"
    completionNotified := .int 1 }

/-- The success is claimed, but only the failure is announced. -/
theorem not_announcedAs_staleSteps :
    (∀ id, Step.call (.claimCompletionNotice id) ∉ staleSteps) ∧
      (run staleSteps).store.find? 1 = some staleRow ∧
      staleRow.status = .int Status.success.code ∧ staleRow.visibility = .visibleNotifyCompleted ∧
      staleRow.completionNotified = .int 1 ∧ ¬ (run staleSteps).log.AnnouncedAs 1 .success := by
  have hlog : (run staleSteps).log.noticesSince 1 =
      [.announced ⟨1, .failed 404, some "a", none⟩ 1] := by decide +kernel
  refine ⟨by simp [staleSteps], by decide +kernel, rfl, rfl, rfl, ?_⟩
  rw [Log.announcedAs_iff hlog]
  decide

theorem announcedAs_of_claimed_staleSteps :
    (run staleSteps).log.status? 1 = some .success ∧
      ∃ n t, (run staleSteps).log.noticesSince 1 = [.announced n t] ∧
        ((run staleSteps).log.AnnouncedAs 1 .success ↔
          ((run staleSteps).log.asOf t).status? 1 = some .success) := by
  have hss : ∀ id, Step.call (.claimCompletionNotice id) ∉ staleSteps := by simp [staleSteps]
  have hrow : (run staleSteps).store.find? 1 = some staleRow := by decide +kernel
  obtain ⟨hstatus, n, t, hnotices, -, hiff, -⟩ :=
    announcedAs_of_claimed staleSteps hss hrow rfl rfl rfl rfl
  exact ⟨hstatus, n, t, hnotices, hiff⟩

end Interleaving

end Downloads
