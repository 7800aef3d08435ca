import Downloads.Store.Basic

/-!
# Access to records

What the scheduler and the document tree need of a store, whatever keeps it: single snapshots,
two listings, removal, and the claim of a completion notice. A call that fails leaves the store
as it was.
-/

namespace Downloads

/-- A source of snapshots. -/
class RecordStore (σ : Type) where
  snapshot? (store : σ) (id : Int) : Except StoreError (Option Snapshot)
  snapshots (store : σ) : Except StoreError (List Snapshot)
  /-- The snapshots of the downloads that listings show. -/
  visibleSnapshots (store : σ) : Except StoreError (List Snapshot)
  /-- The store without a download. -/
  delete (store : σ) (id : Int) : Except StoreError σ
  /-- Takes the announcement of a completion; true for the first taker. -/
  claimCompletionNotice (store : σ) (id : Int) : Except StoreError (Bool × σ)

instance : RecordStore Store where
  snapshot? := Store.snapshot?
  snapshots := Store.snapshots
  visibleSnapshots := Store.visibleSnapshots
  delete := Store.delete
  claimCompletionNotice s id := .ok (s.claimCompletionNotice id)

/-- A store that lists fixed snapshots, malformed ones included. -/
structure FixedListing where
  listed : List Snapshot
  /-- The ids whose completion was announced. -/
  claimed : List Int := []
  deriving Repr, DecidableEq

instance : RecordStore FixedListing where
  snapshot? s id := .ok (s.listed.find? fun x => x.id? == some id)
  snapshots s := .ok s.listed
  visibleSnapshots s := .ok s.listed
  delete s id :=
    if s.listed.any fun x => x.id? == some id then
      .ok { s with listed := s.listed.filter fun x => x.id? != some id }
    else .error (.notFound id)
  claimCompletionNotice s id :=
    if id ∈ s.claimed then .ok (false, s) else .ok (true, { s with claimed := id :: s.claimed })

end Downloads
