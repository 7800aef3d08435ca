import Downloads.Documents.Tree
import Downloads.Proofs.Schedule.Classes

/-!
# Malformed rows

A snapshot that is no record is counted and does nothing else: it draws no jitter, claims nothing
and leaves the rest of the report alone. So two runs, one over a listing and one over the same
listing without some of its malformed snapshots, differ in that count only
(`Scheduler.tick_of_thinned`). The runs may use different stores, as long as both answer the claims
of the listing alike.
-/

namespace Downloads

/-- A listing, the same listing without some of its malformed snapshots, and their number. -/
inductive Thinned : List Snapshot → List Snapshot → Nat → Prop where
  | nil : Thinned [] [] 0
  | keep (x : Snapshot) {xs ys : List Snapshot} {k : Nat} (h : Thinned xs ys k) :
      Thinned (x :: xs) (x :: ys) k
  | drop {x : Snapshot} {e : RecordError} (hx : Record.ofSnapshot x = .error e)
      {xs ys : List Snapshot} {k : Nat} (h : Thinned xs ys k) : Thinned (x :: xs) ys (k + 1)

/-! ## Stores that answer claims alike -/

namespace RecordStore

variable {σ τ : Type} [RecordStore σ] [RecordStore τ] {a : σ} {b : τ} {id : Int} {ids : List Int}

/-- However some downloads are claimed, both stores give the same answers. -/
def AnswerAlike (ids : List Int) (a : σ) (b : τ) : Prop :=
  ∀ cs, cs ⊆ ids → (claimAll a cs).1 = (claimAll b cs).1

/-- The same answer to a claim, and related stores after it. -/
inductive SameAnswer (R : σ → τ → Prop) :
    Except StoreError (Bool × σ) → Except StoreError (Bool × τ) → Prop where
  | error (e : StoreError) : SameAnswer R (.error e) (.error e)
  | ok (first : Bool) {a : σ} {b : τ} (h : R a b) : SameAnswer R (.ok (first, a)) (.ok (first, b))

/-- Stores answer alike if a relation between them makes each claim be answered alike and is kept
by it. -/
theorem AnswerAlike.of_step (R : σ → τ → Prop)
    (hstep : ∀ a b, R a b → ∀ id ∈ ids,
      SameAnswer R (claimCompletionNotice a id) (claimCompletionNotice b id))
    (h : R a b) : AnswerAlike ids a b := by
  intro cs hcs
  induction cs generalizing a b with
  | nil => rfl
  | cons c cs ih =>
    have hc := hstep a b h c (hcs List.mem_cons_self)
    rcases ha : claimCompletionNotice a c with e | ⟨first, a'⟩ <;>
      rcases hb : claimCompletionNotice b c with e' | ⟨first', b'⟩ <;>
      rw [ha, hb] at hc <;> cases hc
    case error.error => rw [claimAll_of_error ha, claimAll_of_error hb]
    case ok.ok h' =>
      rw [claimAll_of_ok ha, claimAll_of_ok hb, ih h' fun c hc => hcs (List.mem_cons_of_mem _ hc)]

/-- Stores that answer alike give the same answer to a claim and still answer alike after it. -/
theorem AnswerAlike.claim (h : AnswerAlike (id :: ids) a b) :
    SameAnswer (AnswerAlike ids) (claimCompletionNotice a id) (claimCompletionNotice b id) := by
  -- A claim alone shows its answer, and followed by others it shows what the stores answer next.
  have hone := h [id] (by simp)
  have hmore := fun cs (hcs : cs ⊆ ids) => h (id :: cs) (List.cons_subset_cons id hcs)
  rcases ha : claimCompletionNotice a id with e | ⟨first, a'⟩ <;>
    rcases hb : claimCompletionNotice b id with e' | ⟨first', b'⟩
  · rw [claimAll_of_error ha, claimAll_of_error hb] at hone
    cases hone
    exact .error e
  · rw [claimAll_of_error ha, claimAll_of_ok hb] at hone
    cases hone
  · rw [claimAll_of_ok ha, claimAll_of_error hb] at hone
    cases hone
  · simp only [claimAll_of_ok ha, claimAll_of_ok hb] at hone hmore
    obtain rfl : first = first' := by
      cases first <;> cases first' <;> first | rfl | cases hone
    refine .ok first fun cs hcs => ?_
    have hrest := hmore cs hcs
    generalize (claimAll a' cs).1 = x at hrest ⊢
    generalize (claimAll b' cs).1 = y at hrest ⊢
    cases x <;> cases y <;> cases first <;> cases hrest <;> rfl

end RecordStore

theorem FixedListing.answerAlike {a b : FixedListing} (h : a.claimed = b.claimed)
    (ids : List Int) : RecordStore.AnswerAlike ids a b := by
  refine .of_step (fun a b => a.claimed = b.claimed) (fun a b h id _ => ?_) h
  simp only [RecordStore.claimCompletionNotice, h]
  split
  · exact .ok false h
  · exact .ok true rfl

/-- Stores with the same rows for some downloads answer their claims alike. -/
theorem Store.answerAlike {a b : Store} {ids : List Int}
    (h : ∀ id ∈ ids, a.find? id = b.find? id) : RecordStore.AnswerAlike ids a b := by
  refine .of_step (fun a b => ∀ id ∈ ids, a.find? id = b.find? id) (fun a b h id hid => ?_) h
  have harmed : a.Armed id ↔ b.Armed id := by
    unfold Armed
    rw [h id hid]
  have hclaim : ∀ s : Store, RecordStore.claimCompletionNotice s id =
      .ok (decide (s.Armed id), (s.claimCompletionNotice id).2) :=
    fun s => by simp only [RecordStore.claimCompletionNotice, claim_eq]
  simp only [hclaim, harmed]
  refine .ok _ fun i hi => ?_
  rw [find?_claim, find?_claim, h i hi]

/-! ## Listings without some malformed snapshots -/

namespace Thinned

variable {xs ys : List Snapshot} {k : Nat}

theorem listed_eq (h : Thinned xs ys k) (words : RandomWords) :
    Record.listed xs words = Record.listed ys words := by
  induction h generalizing words with
  | nil => rfl
  | keep x h ih =>
    have hrest := ih (Record.build x words).2
    simp only [Record.listed, Record.buildAll, List.filterMap_cons] at hrest ⊢
    rw [hrest]
  | drop hx h ih =>
    rw [← ih words, Record.listed, Record.buildAll, Record.build_of_error hx]
    rfl

theorem countP_malformed (h : Thinned xs ys k) (words : RandomWords) :
    (Record.buildAll xs words).countP (fun b => !b.isOk) =
      (Record.buildAll ys words).countP (fun b => !b.isOk) + k := by
  induction h generalizing words with
  | nil => rfl
  | keep x h ih =>
    simp only [Record.buildAll, List.countP_cons, ih]
    omega
  | drop hx h ih =>
    rw [Record.buildAll, Record.build_of_error hx, List.countP_cons_of_pos rfl, ih, Nat.add_assoc]

/-- Only the count of malformed snapshots differs between the reports. -/
theorem report_eq (h : Thinned xs ys k) (s : Scheduler) (now : Int) (words : RandomWords)
    (granted : List Int) :
    s.report now (Record.buildAll xs words) granted =
      { s.report now (Record.buildAll ys words) granted with
        skipped := (s.report now (Record.buildAll ys words) granted).skipped + k } := by
  have hlisted := h.listed_eq words
  have hcount := h.countP_malformed words
  unfold Record.listed at hlisted
  simp only [Scheduler.report, hlisted, hcount]

theorem completions_eq (h : Thinned xs ys k) (words : RandomWords) :
    Scan.completions (Record.buildAll xs words) = Scan.completions (Record.buildAll ys words) := by
  have hlisted := h.listed_eq words
  unfold Record.listed at hlisted
  unfold Scan.completions
  rw [hlisted]

section

variable {σ τ : Type} [RecordStore σ] [RecordStore τ] {t : Scan σ} {u : Scan τ}

/-- Two scans with the same random words and the same notifier keep them the same. -/
theorem visitAll_eq (h : Thinned xs ys k) (s : Scheduler) (now : Int) (hwords : t.words = u.words)
    (hnotifier : t.notifier = u.notifier)
    (halike : RecordStore.AnswerAlike (Scan.completions (Record.buildAll ys u.words))
      t.store u.store) :
    (t.visitAll s now xs).1.words = (u.visitAll s now ys).1.words ∧
      (t.visitAll s now xs).1.notifier = (u.visitAll s now ys).1.notifier := by
  -- The stores may differ throughout: what carries over is how they answer the claims to come.
  induction h generalizing t u with
  | nil => exact ⟨hwords, hnotifier⟩
  | @drop x e hx xs ys k h ih =>
    have hbuild : Record.build x t.words = (.error e, t.words) := Record.build_of_error hx _
    simp only [Scan.visitAll, Scan.visit_of_error hbuild]
    exact ih hwords hnotifier halike
  | @keep x xs ys k h ih =>
    rcases hbuild : Record.build x u.words with ⟨e | r, words⟩ <;>
      have hbuild' := hbuild <;> rw [← hwords] at hbuild' <;>
      simp only [Record.buildAll, hbuild] at halike
    · simp only [Scan.visitAll, Scan.visit_of_error hbuild, Scan.visit_of_error hbuild']
      exact ih rfl hnotifier halike
    by_cases hr : r.hasCompletionNotification = true
    swap
    · rw [Scan.completions_of_quiet hr] at halike
      simp only [Scan.visitAll, Scan.visit_of_quiet hbuild hr, Scan.visit_of_quiet hbuild' hr]
      exact ih rfl hnotifier halike
    rw [Scan.completions_of_completion hr] at halike
    have hclaim := halike.claim
    simp only [Scan.visitAll, Scan.visit_of_completion hbuild hr,
      Scan.visit_of_completion hbuild' hr]
    rcases ha : RecordStore.claimCompletionNotice t.store r.id with e | ⟨first, a⟩ <;>
      rcases hb : RecordStore.claimCompletionNotice u.store r.id with e' | ⟨first', b⟩ <;>
      rw [ha, hb] at hclaim <;> cases hclaim
    case error.error => exact ⟨rfl, hnotifier⟩
    case ok.ok halike => exact ih rfl (by simp only [hnotifier]) halike

end

theorem nodes_eq [Url.HostNames] (h : Thinned xs ys k) (tree : DocumentTree) (words : RandomWords) :
    tree.nodes xs words = tree.nodes ys words := by
  induction h generalizing words with
  | nil => rfl
  | keep x h ih => simp only [DocumentTree.nodes, ih]
  | drop hx h ih =>
    rw [← ih words]
    simp only [DocumentTree.nodes, DocumentTree.node?, Record.build_of_error hx]
    rfl

/-- The documents of a directory listing are those of the snapshots that are records. -/
theorem query_eq [Url.HostNames] {σ τ : Type} [RecordStore σ] [RecordStore τ] {a : σ} {b : τ}
    (ha : RecordStore.visibleSnapshots a = .ok xs) (hb : RecordStore.visibleSnapshots b = .ok ys)
    (h : Thinned xs ys k) (tree : DocumentTree) (words : RandomWords) :
    tree.query a "roots/downloads" words = tree.query b "roots/downloads" words := by
  have hpath : DocumentPath.parse "roots/downloads" = .ok (.root rootId) := by decide +kernel
  simp only [DocumentTree.query, hpath, DocumentTree.queryAt, DocumentTree.checkRoot,
    DocumentTree.listing, ha, hb, h.nodes_eq tree words]

end Thinned

theorem Scheduler.snd_tick {σ : Type} [RecordStore σ] (s : Scheduler) (now : Int) {store : σ}
    {xs : List Snapshot} (h : RecordStore.snapshots store = .ok xs) (words : RandomWords)
    (notifier : Notifier) :
    (s.tick now store words notifier).2 =
      (Scan.visitAll s now ⟨store, words, notifier, {}⟩ xs).1 := by
  simp only [tick, h]
  rcases Scan.visitAll s now ⟨store, words, notifier, {}⟩ xs with ⟨t, _ | e⟩ <;> rfl

/-- **Malformed rows are isolated.** A tick over a listing and a tick over the same listing without
some malformed snapshots make the same claims, hand the same notices to the notifier, leave the same
random words and report the same, but for the number of malformed snapshots. The directory of
documents shows the same. -/
theorem Scheduler.tick_of_thinned [Url.HostNames] {σ τ : Type} [RecordStore σ] [RecordStore τ]
    (s : Scheduler) (now : Int) {a : σ} {b : τ} {xs ys : List Snapshot} {k : Nat}
    (ha : RecordStore.snapshots a = .ok xs) (hb : RecordStore.snapshots b = .ok ys)
    (h : Thinned xs ys k) {vs us : List Snapshot} {j : Nat}
    (hva : RecordStore.visibleSnapshots a = .ok vs)
    (hub : RecordStore.visibleSnapshots b = .ok us) (hv : Thinned vs us j) (words : RandomWords)
    (halike : RecordStore.AnswerAlike (Scan.completions (Record.buildAll ys words)) a b)
    (notifier : Notifier) (tree : DocumentTree) :
    let claimed := Scan.completions (Record.buildAll ys words)
    let p := s.tick now a words notifier
    let q := s.tick now b words notifier
    p.1 = q.1.map (fun t => { t with skipped := t.skipped + k }) ∧
      p.2.notifier = q.2.notifier ∧ p.2.words = q.2.words ∧
      p.2.store = (RecordStore.claimAll a claimed).2 ∧
      q.2.store = (RecordStore.claimAll b claimed).2 ∧
      ∀ w, tree.query a "roots/downloads" w = tree.query b "roots/downloads" w := by
  intro claimed p q
  obtain ⟨hp, hpstore⟩ := s.tick_eq now ha words notifier
  obtain ⟨hq, hqstore⟩ := s.tick_eq now hb words notifier
  rw [h.completions_eq words] at hp hpstore
  obtain ⟨hwords, hnotifier⟩ := h.visitAll_eq s now (t := ⟨a, words, notifier, {}⟩)
    (u := ⟨b, words, notifier, {}⟩) rfl rfl halike
  rw [← s.snd_tick now ha, ← s.snd_tick now hb] at hwords hnotifier
  refine ⟨?_, hnotifier, hwords, hpstore, hqstore, fun w => hv.query_eq hva hub tree w⟩
  show (s.tick now a words notifier).1 = (s.tick now b words notifier).1.map _
  rw [hp, hq, halike _ (List.Subset.refl _)]
  rcases (RecordStore.claimAll b claimed).1 with e | granted
  · rfl
  · exact congrArg Except.ok (h.report_eq s now words granted)

/-- The store with all classes, without the row of the unknown status. -/
def thinnedStore : Store := { mixedStore with rows := mixedStore.rows.filter (·.id ≠ 2) }

theorem Scheduler.tick_of_thinned_mixedStore :
    Thinned (mixedStore.rows.map mixedStore.view) (thinnedStore.rows.map thinnedStore.view) 1 ∧
      (roamingScheduler.tick 1 mixedStore ⟨[5, 6], 0⟩ (.box (.ofCapacity 1))).1 =
        (roamingScheduler.tick 1 thinnedStore ⟨[5, 6], 0⟩ (.box (.ofCapacity 1))).1.map
          (fun t => { t with skipped := t.skipped + 1 }) ∧
      (roamingScheduler.tick 1 mixedStore ⟨[5, 6], 0⟩ (.box (.ofCapacity 1))).2.notifier =
        .box ⟨1, [⟨4, .failed 404, some "a", none⟩], true⟩ ∧
      (roamingScheduler.tick 1 thinnedStore ⟨[5, 6], 0⟩ (.box (.ofCapacity 1))).2.notifier =
        .box ⟨1, [⟨4, .failed 404, some "a", none⟩], true⟩ := by
  have hmalformed : Record.ofSnapshot (mixedStore.view mixedStore.rows[1]) =
      .error (.invalidField .status (.unknownCode 7)) := by decide +kernel
  have hthinned :
      Thinned (mixedStore.rows.map mixedStore.view) (thinnedStore.rows.map thinnedStore.view) 1 :=
    .keep _ (.drop hmalformed (.keep _ (.keep _ (.keep _ (.keep _ (.keep _ .nil))))))
  obtain ⟨hlisted, hvisible⟩ :
      RecordStore.snapshots mixedStore = .ok (mixedStore.rows.map mixedStore.view) ∧
      RecordStore.visibleSnapshots mixedStore = .ok (mixedStore.rows.map mixedStore.view) := by
    decide +kernel
  obtain ⟨hlisted', hvisible'⟩ :
      RecordStore.snapshots thinnedStore = .ok (thinnedStore.rows.map thinnedStore.view) ∧
      RecordStore.visibleSnapshots thinnedStore =
        .ok (thinnedStore.rows.map thinnedStore.view) := by decide +kernel
  have halike : RecordStore.AnswerAlike
      (Scan.completions (Record.buildAll (thinnedStore.rows.map thinnedStore.view) ⟨[5, 6], 0⟩))
      mixedStore thinnedStore := Store.answerAlike (by decide +kernel)
  have hnotices : (roamingScheduler.tick 1 mixedStore ⟨[5, 6], 0⟩ (.box (.ofCapacity 1))).2.notifier
      = .box ⟨1, [⟨4, .failed 404, some "a", none⟩], true⟩ := by decide +kernel
  obtain ⟨hreport, hnotifier, -⟩ := roamingScheduler.tick_of_thinned 1 hlisted hlisted' hthinned
    hvisible hvisible' hthinned ⟨[5, 6], 0⟩ halike (.box (.ofCapacity 1)) {}
  exact ⟨hthinned, hreport, hnotices, hnotifier.symm.trans hnotices⟩

end Downloads
