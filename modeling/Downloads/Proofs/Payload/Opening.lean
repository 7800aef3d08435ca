import Downloads.Payload
import Downloads.Proofs.Store.Lifecycle
import Downloads.Proofs.Store.RetryCounts
import Downloads.Proofs.Store.Snapshots

/-!
# Which payload is opened

Opening a payload looks at the row of the download and then, if at all, at one path. The file system
is left open (`Payload.openWith`): it may answer anything and do anything besides. Of a store that
came about by calls, a payload is opened while the download is complete, and then at the path of the
last success. In all other cases no path is looked up (`Journal.payloads_served`).
-/

namespace Downloads

namespace Payload

section Lookup

variable {σ : Type} [RecordStore σ] {store : σ} {id : Int} {words : RandomWords}

/-- Opens the payload of a download where only the looking up of paths is known of the file
system. -/
def openWith {m : Type → Type} [Monad m] (lookup : String → m (Except FileFault FileNode))
    (store : σ) (id : Int) (words : RandomWords) : m (Except PayloadError Payload × RandomWords) :=
  match locate store id words with
  | (.error e, words) => pure (.error e, words)
  | (.ok path, words) => do return (ofLookup id path (← lookup path), words)

theorem openFor_eq (store : σ) (files : Files) (id : Int) (words : RandomWords) :
    openFor store files id words =
      (openWith (fun path => pure (files.find path)) store id words : Id _).run := by
  unfold openFor openWith
  rcases locate store id words with ⟨e | path, words⟩ <;> rfl

/-- Whatever the file system, one path is looked up, and the answer is made of what is found. -/
def Opens (store : σ) (id : Int) (words : RandomWords) (path : String) : Prop :=
  ∃ words', ∀ (m : Type → Type) [Monad m] (lookup : String → m (Except FileFault FileNode)),
    openWith lookup store id words = do return (ofLookup id path (← lookup path), words')

/-- Whatever the file system, it is not asked, and the answer is an error. -/
def Declines (store : σ) (id : Int) (words : RandomWords) (e : PayloadError) : Prop :=
  ∃ words', ∀ (m : Type → Type) [Monad m] (lookup : String → m (Except FileFault FileNode)),
    openWith lookup store id words = pure (.error e, words')

theorem opens_iff {path : String} :
    Opens store id words path ↔ (locate store id words).1 = .ok path := by
  unfold Opens openWith
  rcases locate store id words with ⟨e | path', words'⟩
  · -- A file system that stops with the path it is asked for tells that it is asked.
    refine iff_of_false ?_ nofun
    rintro ⟨words', h⟩
    cases h (Except String) Except.error
  · constructor
    · rintro ⟨words', h⟩
      cases h (Except String) Except.error
      rfl
    · intro h
      cases h
      exact ⟨words', fun m _ lookup => rfl⟩

theorem declines_iff {e : PayloadError} :
    Declines store id words e ↔ (locate store id words).1 = .error e := by
  unfold Declines openWith
  rcases locate store id words with ⟨e' | path, words'⟩
  · constructor
    · rintro ⟨words', h⟩
      cases h (Except String) Except.error
      rfl
    · intro h
      cases h
      exact ⟨words', fun m _ lookup => rfl⟩
  · refine iff_of_false ?_ nofun
    rintro ⟨words', h⟩
    cases h (Except String) Except.error

/-- A payload whose file is missing is not found. -/
theorem Opens.of_missing {path : String} (h : Opens store id words path) :
    ∃ words', ∀ (m : Type → Type) [Monad m] [LawfulMonad m]
      (lookup : String → m (Except FileFault FileNode)), lookup path = pure (.error .missing) →
        openWith lookup store id words = pure (.error (.notFound id), words') := by
  obtain ⟨words', hopen⟩ := h
  refine ⟨words', fun m _ _ lookup hmissing => ?_⟩
  rw [hopen m lookup, hmissing, pure_bind]
  rfl

end Lookup

/-! ## Rows and paths -/

section Rows

variable {s : Store} {id : Int} {r : Row}

theorem locate_of_none (h : s.find? id = none) (words : RandomWords) :
    (locate s id words).1 = .error (.notFound id) := by
  have hnone : RecordStore.snapshot? s id = .ok none := by
    show s.snapshot? id = .ok none
    simp only [Store.snapshot?, h]
  simp only [locate, hnone]

variable [Url.HostNames]

theorem locate_of_real (h : s.Reachable) (hr : s.find? id = some r) (hreal : r.numFailed = .real)
    (words : RandomWords) :
    (locate s id words).1 =
      .error (.store (.database (.notAnInteger Column.numFailed.index true .real))) := by
  have herror : RecordStore.snapshot? s id =
      .error (.database (.notAnInteger Column.numFailed.index true .real)) := by
    show s.snapshot? id = _
    simp only [Store.snapshot?, hr, Store.snapshotOf, (h.sound hr).fields_of_real hreal]
    rfl
  simp only [locate, herror]

/-- A row that can be read leads to its path if it is complete and its count of failures has 32
bits. -/
theorem locate_of_int (h : s.Reachable) (hr : s.find? id = some r) {n : Nat}
    (hn : r.numFailed = .int n) (words : RandomWords) :
    (locate s id words).1 =
      if r.status = .int Status.success.code ∧ (n : Int) ≤ Record.maxFailures then
        r.filePath.elim (.error (.notFound id)) .ok
      else .error (.notFound id) := by
  have hsound : r.Sound := h.sound hr
  obtain ⟨st, hst, hcode⟩ := hsound.status
  have hview : RecordStore.snapshot? s id = .ok (some (s.view r)) :=
    h.snapshot?_of_find? hr (by rw [hn]; nofun)
  have hread : Record.ofSnapshot (s.view r) = _ :=
    Record.ofSnapshot_values (hsound.legible hn) hst hcode hn (s.headersOf r.id)
  have hsuccess : r.status = .int Status.success.code ↔ st = .success := by
    constructor
    · exact Status.eq_of_code hst Status.storable_success hcode
    · rintro rfl
      exact hcode
  simp only [hsuccess, locate, hview]
  by_cases hle : (n : Int) ≤ Record.maxFailures
  · rw [if_pos hle] at hread
    simp only [Record.build_of_ok hread, path?, Row.record]
    by_cases hdone : st = .success
    · rw [if_pos hdone, if_pos ⟨hdone, hle⟩]
      rcases r.filePath with _ | path <;> rfl
    · rw [if_neg hdone, if_neg fun h => hdone h.1]
  · rw [if_neg hle] at hread
    rw [Record.build_of_error hread, if_neg fun h => hle h.2]

end Rows

end Payload

namespace Journal

open Operation Payload

section

variable [Url.HostNames]

/-- The number of failures recorded for a download since it was added or last succeeded. -/
def failures (j : Journal) (id : Int) : Nat := (waits id (Store.callsSinceStart id j.calls)).length

/-- The download is there, and its failures cannot be counted with 64 bits. -/
def Overflown (j : Journal) (id : Int) : Prop :=
  (j.store.find? id).isSome = true ∧ 2 ^ 63 ≤ j.failures id

variable {as : List Attempt} {id : Int} {r : Row}

theorem numFailed_eq (hr : (ofAttempts as).store.find? id = some r) :
    r.numFailed = .count ((ofAttempts as).failures id) := by
  rw [store_eq_run] at hr
  exact (Store.counts_of_find? _ hr).numFailed

theorem locate_of_success (hr : (ofAttempts as).store.find? id = some r)
    (hstatus : r.status = .int Status.success.code) (words : RandomWords) :
    ∃ p, lastPayload? id (ofAttempts as).calls = some p ∧
      (locate (ofAttempts as).store id words).1 = .ok p.filePath := by
  have hlife : r.Lifecycle id (ofAttempts as).calls := (recorded as).lifecycle id r hr
  obtain ⟨hzero, hsome⟩ := hlife.success hstatus
  obtain ⟨p, hp⟩ := Option.isSome_iff_exists.mp hsome
  have hpath : r.filePath = some p.filePath := by
    rw [hlife.filePath, hp]
    rfl
  refine ⟨p, hp, ?_⟩
  rw [locate_of_int (reachable_ofAttempts as) hr (n := 0) hzero, hpath, if_pos]
  · rfl
  · exact ⟨hstatus, by decide⟩

theorem locate_of_overflown (h : (ofAttempts as).Overflown id) (words : RandomWords) :
    (locate (ofAttempts as).store id words).1 =
      .error (.store (.database (.notAnInteger Column.numFailed.index true .real))) := by
  obtain ⟨hsome, hcount⟩ := h
  obtain ⟨r, hr⟩ := Option.isSome_iff_exists.mp hsome
  have hreal : r.numFailed = .real := by
    rw [numFailed_eq hr]
    exact Cell.count_eq_real_iff.mpr hcount
  exact locate_of_real (reachable_ofAttempts as) hr hreal words

theorem locate_of_unfinished
    (hstatus : ∀ r, (ofAttempts as).store.find? id = some r → r.status ≠ .int Status.success.code)
    (hcount : ¬ (ofAttempts as).Overflown id) (words : RandomWords) :
    (locate (ofAttempts as).store id words).1 = .error (.notFound id) := by
  have hreach : (ofAttempts as).store.Reachable := reachable_ofAttempts as
  rcases hr : (ofAttempts as).store.find? id with _ | r
  · exact locate_of_none hr words
  · have hreal : r.numFailed ≠ .real := by
      rw [numFailed_eq hr, Ne, Cell.count_eq_real_iff]
      exact fun hle => hcount ⟨by rw [hr]; rfl, hle⟩
    obtain ⟨n, hn⟩ := (hreach.sound hr).exists_numFailed hreal
    rw [locate_of_int hreach hr hn, if_neg fun h => hstatus r hr h.1]

theorem failures_attempt_failure (hr : (ofAttempts as).store.find? id = some r)
    (retryAfter : Option Nat) (now : Int) {j : Journal}
    (hj : (ofAttempts as).attempt ⟨.markPausedForRetry id retryAfter now, []⟩ = j) :
    (j.store.find? id).isSome = true ∧ j.failures id = (ofAttempts as).failures id + 1 := by
  have hreach : (ofAttempts as).store.Reachable := reachable_ofAttempts as
  have hop : ¬ (Operation.markPausedForRetry id retryAfter now).Faulty := not_false
  obtain ⟨o, s, hok⟩ := exists_apply_ok hreach hop rfl hr
  obtain ⟨r', hr', -⟩ := (hreach.frames hok).row id r rfl (by simp) hr
  rw [attempt_of_ok hreach.ordered hok] at hj
  subst hj
  refine ⟨Option.isSome_iff_exists.mpr ⟨r', hr'⟩, ?_⟩
  have hgoesOn : (Store.empty.run (ofAttempts as).calls).startsCounts id
      (.markPausedForRetry id retryAfter now) = false := by
    rw [← store_eq_run]
    exact Store.startsCounts_eq_false hr nofun
  unfold failures
  rw [calls_note_ok, Store.callsSinceStart_concat, hgoesOn]
  simp [waits, wait?, List.filterMap_append]

/-! ## Payloads of complete downloads -/

/-- **Payloads are those of complete downloads.** Whatever calls are made and wherever the engine
refuses statements of them, each row tells of its past as `Row.Lifecycle` says, and it holds a path
exactly if a success was recorded. A payload is opened exactly while its download is complete, at
the path of the last success. If there is no file, or if nothing is opened, no payload is found. The
one exception is a download with `2 ^ 63` failures since its last success, of which the store cannot
read the count any more: then the error of the store is the answer. -/
theorem payloads_served (as : List Attempt) :
    let j := ofAttempts as
    (∀ id r, j.store.find? id = some r → r.Lifecycle id j.calls ∧
      (r.filePath.isSome = true ↔ ∃ p now, .markSuccess id p now ∈ j.calls)) ∧
    ∀ id words,
      ((∃ path, Opens j.store id words path) ↔
        ∃ r, j.store.find? id = some r ∧ r.status = .int Status.success.code) ∧
      (∀ path, Opens j.store id words path →
        (lastPayload? id j.calls).map (·.filePath) = some path ∧
        ∃ words', ∀ (m : Type → Type) [Monad m] [LawfulMonad m]
          (lookup : String → m (Except FileFault FileNode)), lookup path = pure (.error .missing) →
            openWith lookup j.store id words = pure (.error (.notFound id), words')) ∧
      ((∀ path, ¬ Opens j.store id words path) → ¬ j.Overflown id →
        Declines j.store id words (.notFound id)) ∧
      (j.Overflown id → Declines j.store id words
        (.store (.database (.notAnInteger Column.numFailed.index true .real)))) := by
  intro j
  have hlife : ∀ id r, j.store.find? id = some r → r.Lifecycle id j.calls := (recorded as).lifecycle
  refine ⟨fun id r hr => ⟨hlife id r hr, ?_⟩, fun id words => ?_⟩
  · rw [(hlife id r hr).filePath, Option.isSome_map, isSome_lastPayload?]
  have hopens : (∃ path, Opens j.store id words path) ↔
      ∃ r, j.store.find? id = some r ∧ r.status = .int Status.success.code := by
    constructor
    · rintro ⟨path, hpath⟩
      rw [opens_iff] at hpath
      by_contra hnone
      have hstatus : ∀ r, j.store.find? id = some r → r.status ≠ .int Status.success.code :=
        fun r hr hsuccess => hnone ⟨r, hr, hsuccess⟩
      by_cases hcount : j.Overflown id
      · rw [locate_of_overflown hcount] at hpath
        cases hpath
      · rw [locate_of_unfinished hstatus hcount] at hpath
        cases hpath
    · rintro ⟨r, hr, hsuccess⟩
      obtain ⟨p, -, hlocate⟩ := locate_of_success hr hsuccess words
      exact ⟨p.filePath, opens_iff.mpr hlocate⟩
  refine ⟨hopens, ?_, ?_, ?_⟩
  · intro path hpath
    refine ⟨?_, hpath.of_missing⟩
    obtain ⟨r, hr, hsuccess⟩ := hopens.mp ⟨path, hpath⟩
    obtain ⟨p, hp, hlocate⟩ := locate_of_success hr hsuccess words
    rw [opens_iff.mp hpath, Except.ok.injEq] at hlocate
    rw [hlocate, hp]
    rfl
  · intro hnone hcount
    refine declines_iff.mpr (locate_of_unfinished ?_ hcount words)
    intro r hr hsuccess
    obtain ⟨path, hpath⟩ := hopens.mpr ⟨r, hr, hsuccess⟩
    exact hnone path hpath
  · intro hcount
    exact declines_iff.mpr (locate_of_overflown hcount words)

end

/-- A download that fails so many times in a row. -/
def failingAttempts (n : Nat) : List Attempt :=
  ⟨.insert { uri := "https://example.com/a" } 0, []⟩ ::
    List.replicate n ⟨.markPausedForRetry 1 none 0, []⟩

theorem failures_failingAttempts (n : Nat) :
    ((ofAttempts (failingAttempts n)).store.find? 1).isSome = true ∧
      (ofAttempts (failingAttempts n)).failures 1 = n := by
  induction n with
  | zero => exact ⟨by decide +kernel, by decide +kernel⟩
  | succ n ih =>
    obtain ⟨hsome, hcount⟩ := ih
    obtain ⟨r, hr⟩ := Option.isSome_iff_exists.mp hsome
    have hlast : failingAttempts (n + 1) =
        failingAttempts n ++ [⟨.markPausedForRetry 1 none 0, []⟩] := by
      unfold failingAttempts
      rw [List.replicate_succ', List.cons_append]
    obtain ⟨hsome', hcount'⟩ := failures_attempt_failure hr none 0 rfl
    rw [hlast, ofAttempts_concat]
    exact ⟨hsome', by rw [hcount', hcount]⟩

theorem overflown_failingAttempts : (ofAttempts (failingAttempts (2 ^ 63))).Overflown 1 := by
  obtain ⟨hsome, hcount⟩ := failures_failingAttempts (2 ^ 63)
  exact ⟨hsome, Nat.le_of_eq hcount.symm⟩

/-- No path is looked up for the download, and yet the answer is not that there is no payload. -/
theorem not_notFound_failingAttempts :
    ¬ ((∃ path, Opens (ofAttempts (failingAttempts (2 ^ 63))).store 1 ⟨[7], 0⟩ path) ∨
      Declines (ofAttempts (failingAttempts (2 ^ 63))).store 1 ⟨[7], 0⟩ (.notFound 1)) := by
  have herror := locate_of_overflown overflown_failingAttempts ⟨[7], 0⟩
  rintro (⟨path, hopens⟩ | hdeclines)
  · rw [opens_iff.mp hopens] at herror
    cases herror
  · rw [declines_iff.mp hdeclines] at herror
    cases herror

/-- A download that succeeds, starts again and succeeds with another payload. The engine refuses to
store a third. -/
def servedAttempts : List Attempt :=
  [{ call := .insert { uri := "https://example.com/a" } 0 },
    { call := .markSuccess 1 ⟨1, "a", none⟩ 1 }, { call := .markRunning 1 2 },
    { call := .markSuccess 1 ⟨1, "b", none⟩ 3 },
    { call := .markSuccess 1 ⟨1, "c", none⟩ 4, refusals := [some .locked] }]

/-- The second payload is lost to a failure. -/
def lostAttempts : List Attempt := servedAttempts ++ [{ call := .markFailed 1 404 5 }]

theorem payloads_served_servedAttempts :
    Opens (ofAttempts servedAttempts).store 1 ⟨[7], 0⟩ "b" ∧
      (openFor (ofAttempts servedAttempts).store ⟨[(["b"], [104])], []⟩ 1 ⟨[7], 0⟩).1 =
        .ok ⟨"b", .file [104]⟩ ∧
      -- The path stays when the download fails, but it is not looked up.
      (∃ r, (ofAttempts lostAttempts).store.find? 1 = some r ∧ r.filePath = some "b") ∧
      Declines (ofAttempts lostAttempts).store 1 ⟨[7], 0⟩ (.notFound 1) := by
  obtain ⟨-, hserved⟩ := payloads_served servedAttempts
  obtain ⟨hopens, hpath, -, -⟩ := hserved 1 ⟨[7], 0⟩
  have hdone : ((ofAttempts servedAttempts).store.find? 1).map (·.status) =
      some (.int Status.success.code) := by decide +kernel
  have hlast : (lastPayload? 1 (ofAttempts servedAttempts).calls).map (·.filePath) = some "b" := by
    decide +kernel
  obtain ⟨r, hr, hstatus⟩ := Option.map_eq_some_iff.mp hdone
  obtain ⟨path, hopen⟩ := hopens.mpr ⟨r, hr, hstatus⟩
  obtain rfl : "b" = path := Option.some.inj (hlast.symm.trans (hpath path hopen).1)
  obtain ⟨-, hfailed⟩ := payloads_served lostAttempts
  obtain ⟨hopens', -, hdeclines, -⟩ := hfailed 1 ⟨[7], 0⟩
  have hrow : ((ofAttempts lostAttempts).store.find? 1).map (fun r => (r.status, r.filePath)) =
      some (.int 404, some "b") := by decide +kernel
  obtain ⟨r', hr', hpair⟩ := Option.map_eq_some_iff.mp hrow
  obtain ⟨hstatus', hpath'⟩ := Prod.mk.inj hpair
  refine ⟨hopen, ?_, ⟨r', hr', hpath'⟩, hdeclines ?_ ?_⟩
  · obtain ⟨words', hlookup⟩ := hopen
    have hfile : Files.find ⟨[(["b"], [104])], []⟩ "b" = .ok (.file [104]) := by decide +kernel
    rw [openFor_eq, hlookup, hfile]
    rfl
  · intro path hopen'
    obtain ⟨r, hr, hsuccess⟩ := hopens'.mp ⟨path, hopen'⟩
    rw [hr', Option.some.injEq] at hr
    rw [← hr, hstatus'] at hsuccess
    cases hsuccess
  · rintro ⟨-, hcount⟩
    have hzero : (ofAttempts lostAttempts).failures 1 = 0 := by decide +kernel
    omega

end Journal

end Downloads
