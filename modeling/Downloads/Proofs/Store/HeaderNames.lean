import Downloads.Command.Grammar
import Downloads.Proofs.Store.NewRecord
import Downloads.Proofs.Text.Reading

/-!
# Names of headers

The headers of a download are those it was inserted with, and after them those that were added since
(`Store.exists_insertedAs`). A header is added only under a name that is not blank, and the command
line reads no other. But an insertion stores its headers as they are, so the blank names in a store
are those that came with the insertions of its downloads (`Store.blank_names_of_run`).
-/

namespace Downloads

namespace Operation

/-- The header that a call adds to a download that is there. One with a blank name is refused. -/
def header? (id : Int) : Operation → Option (String × String)
  | .addHeader i name value =>
    if i = id ∧ Text.isBlankText name = false then some (name, value) else none
  | _ => none

/-- The headers that calls add to a download that is there all the time. -/
def addedHeaders (id : Int) (calls : List Operation) : List (String × String) :=
  calls.filterMap (header? id)

variable {op : Operation} {id : Int} {h : String × String}

theorem header?_eq_some_iff :
    op.header? id = some h ↔ op = .addHeader id h.1 h.2 ∧ Text.isBlankText h.1 = false := by
  cases op with
  | addHeader i name value =>
    obtain ⟨n, v⟩ := h
    simp only [header?, Option.ite_none_right_eq_some, Option.some.injEq, Prod.mk.injEq,
      addHeader.injEq]
    constructor
    · rintro ⟨⟨rfl, hname⟩, rfl, rfl⟩
      exact ⟨⟨rfl, rfl, rfl⟩, hname⟩
    · rintro ⟨⟨rfl, rfl, rfl⟩, hname⟩
      exact ⟨⟨rfl, hname⟩, rfl, rfl⟩
  | _ => simp [header?]

theorem header?_of_ne (hop : op.target? ≠ some id) : op.header? id = none := by
  refine Option.eq_none_iff_forall_ne_some.mpr fun h hh => hop ?_
  rw [(header?_eq_some_iff.mp hh).1]
  rfl

theorem addedHeaders_concat (id : Int) (calls : List Operation) (op : Operation) :
    addedHeaders id (calls ++ [op]) = addedHeaders id calls ++ (op.header? id).toList := by
  rw [addedHeaders, addedHeaders, List.filterMap_append]
  rcases hop : op.header? id with _ | h <;> simp [hop]

theorem isBlankText_of_mem_addedHeaders {calls : List Operation} (hh : h ∈ addedHeaders id calls) :
    Text.isBlankText h.1 = false := by
  obtain ⟨op, -, hop⟩ := List.mem_filterMap.mp hh
  exact (header?_eq_some_iff.mp hop).2

end Operation

/-- The command line reads no header with a blank name. -/
theorem Command.isBlankText_of_readHeader {raw name value : String}
    (h : readHeader raw = .ok (.header name value)) : Text.isBlankText name = false := by
  unfold readHeader at h
  split at h
  · cases h
  rename_i left right _
  dsimp only at h
  split at h
  · cases h
  rename_i hne
  cases h
  have hfirst := (Text.stripped_trimBoth Text.isBlank left).first
  rcases hname : Text.trimBoth Text.isBlank left with _ | ⟨c, cs⟩
  · rw [hname] at hne
    exact absurd rfl hne
  · rw [hname] at hfirst
    simp [Text.isBlankText, hfirst c rfl]

namespace Store

open Operation

/-! ## Blank names -/

/-- Under a blank name, a download has only headers that came with it. -/
theorem mem_names_append_iff {id : Int} {headers : List (String × String)}
    {calls : List Operation} {name : String} (hname : Text.isBlankText name = true) :
    name ∈ (headers ++ addedHeaders id calls).map Prod.fst ↔ name ∈ headers.map Prod.fst := by
  have hadded : name ∉ (addedHeaders id calls).map Prod.fst := by
    intro hmem
    obtain ⟨h, hh, rfl⟩ := List.mem_map.mp hmem
    rw [isBlankText_of_mem_addedHeaders hh] at hname
    cases hname
  rw [List.map_append, List.mem_append, or_iff_left hadded]

/-- Under a blank name, a record sends what is stored. The names that it adds are not blank. -/
theorem contains_mergeHeaders_iff (headers : List (String × String))
    (cookies referer : Option String) {name : String} (hname : Text.isBlankText name = true) :
    (mergeHeaders headers cookies referer).contains name = true ↔ name ∈ headers.map Prod.fst := by
  have hcookie : name ≠ "Cookie" := by
    rintro rfl
    revert hname
    decide
  have hreferer : name ≠ "Referer" := by
    rintro rfl
    revert hname
    decide
  rw [Dict.contains, find?_mergeHeaders, if_neg hcookie, if_neg hreferer, Option.none_or,
    Option.none_or, List.lookup_isSome_iff]
  simp only [List.mem_reverse, beq_iff_eq, List.mem_map, @eq_comm _ name]

/-! ## Where headers come from -/

section

variable [Url.HostNames] {s : Store} {id : Int} {r r' : Row}

/-- A call adds at most one header to a download that it does not remove. -/
theorem Reachable.headersOf_after (h : s.Reachable) {op : Operation} (hr : s.find? id = some r)
    (hr' : (s.after op).find? id = some r') :
    (s.after op).headersOf id = s.headersOf id ++ (op.header? id).toList := by
  rcases happly : s.apply op with e | ⟨o, t⟩
  · have hnone : op.header? id = none := by
      refine Option.eq_none_iff_forall_ne_some.mpr fun p hp => ?_
      obtain ⟨rfl, hname⟩ := header?_eq_some_iff.mp hp
      have hfit : ¬ (Operation.addHeader id p.1 p.2).Faulty := fun hblank => by
        rw [Faulty, hname] at hblank
        cases hblank
      obtain ⟨o, t, hok⟩ := exists_apply_ok h hfit rfl hr
      rw [hok] at happly
      cases happly
    rw [after_of_error happly, hnone, Option.toList_none, List.append_nil]
  · have hframes := h.frames happly
    rw [after_of_ok happly] at hr' ⊢
    by_cases ht : op.target? = some id
    · rw [hframes.headers id ht]
      cases op with
      | insert => cases ht
      | addHeader i name value =>
        cases ht
        have hname : Text.isBlankText name = false := by
          have hfit : ¬ Text.isBlankText name = true := (of_apply_ok h happly).1
          simpa using hfit
        simp [headersAfter, header?, hname]
      | delete i =>
        cases ht
        rw [hframes.deleted id rfl] at hr'
        cases hr'
      | _ => exact (List.append_nil _).symm
    · have hnew : o ≠ .inserted id := by
        rintro rfl
        obtain ⟨d, now, -, hins⟩ := apply_eq_inserted happly
        exact ne_of_insert hins hr rfl
      rw [(hframes.others id ht hnew).2, header?_of_ne ht, Option.toList_none, List.append_nil]

/-- In the run, the download was inserted under the id, and the later calls came after that. -/
def InsertedAs (ops : List Operation) (id : Int) (d : NewDownload)
    (later : List Operation) : Prop :=
  ∃ earlier now t, ops = earlier ++ .insert d now :: later ∧
    (empty.run earlier).insert d now = .ok (id, t)

theorem InsertedAs.concat {ops later : List Operation} {d : NewDownload}
    (h : InsertedAs ops id d later) (op : Operation) :
    InsertedAs (ops ++ [op]) id d (later ++ [op]) := by
  obtain ⟨earlier, now, t, rfl, hins⟩ := h
  exact ⟨earlier, now, t, by simp, hins⟩

/-- The headers of a download are those that came with it and those that were added since. -/
theorem exists_insertedAs (ops : List Operation) (hr : (empty.run ops).find? id = some r) :
    ∃ d later, InsertedAs ops id d later ∧
      (empty.run ops).headersOf id = d.headers ++ addedHeaders id later := by
  induction ops using List.reverseRecOn generalizing r with
  | nil => cases hr
  | append_singleton ops op ih =>
    have hreach : (empty.run ops).Reachable := ⟨ops, rfl⟩
    rw [run_concat] at hr ⊢
    rcases hold : (empty.run ops).find? id with _ | r₀
    · -- The call inserts the download.
      obtain ⟨d, now, rfl, hins, -⟩ := find?_after_of_none hold hr
      refine ⟨d, [], ⟨ops, now, _, rfl, hins⟩, ?_⟩
      have hkeeps := hreach.keeps_insert hins
      exact hkeeps.headers.trans (List.append_nil _).symm
    · obtain ⟨d, later, hlater, hheaders⟩ := ih hold
      refine ⟨d, later ++ [op], hlater.concat op, ?_⟩
      rw [hreach.headersOf_after hold hr, hheaders, addedHeaders_concat, List.append_assoc]

/-- The headers of a record are merged from those of its download. -/
theorem Reachable.exists_requestHeaders (h : s.Reachable) {x : Snapshot} {words : RandomWords}
    {c : Record} (hx : s.snapshot? id = .ok (some x)) (hc : (Record.build x words).1 = .ok c) :
    ∃ cookies referer, c.requestHeaders = mergeHeaders (s.headersOf id) cookies referer := by
  rcases hrecord : Record.ofSnapshot x with e | c₀
  · rw [Record.build_of_error hrecord] at hc
    cases hc
  · have hreads : s.Reads id c₀ := ⟨x, hx, hrecord⟩
    obtain ⟨r, hr, hreal⟩ := h.exists_row_of_reads hreads
    obtain ⟨st, n, -, -, -, -, rfl⟩ := (h.reads_iff hr hreal).mp hreads
    rw [Record.build_of_ok hrecord] at hc
    cases hc
    exact ⟨r.cookies, r.referer, by rw [← id_of_find? hr]; rfl⟩

/-- **Blank names.** Every header with a blank name came with the insertion of its download. The
headers of a download are those that came with it and those that were added since, of which none has
a blank name, so the download and the record that is built of it have a blank name if and only if
the insertion brought it. The command line never asks for such an insertion. -/
theorem blank_names_of_run (ops : List Operation) :
    (∀ h ∈ (empty.run ops).headers, Text.isBlankText h.name = true →
      ∃ d later, InsertedAs ops h.download d later ∧ h.name ∈ d.headers.map Prod.fst) ∧
    (∀ id r, (empty.run ops).find? id = some r →
      ∃ d later, InsertedAs ops id d later ∧
        (empty.run ops).headersOf id = d.headers ++ addedHeaders id later ∧
        ∀ name, Text.isBlankText name = true →
          (name ∈ ((empty.run ops).headersOf id).map Prod.fst ↔ name ∈ d.headers.map Prod.fst) ∧
          ∀ x words c, (empty.run ops).snapshot? id = .ok (some x) →
            (Record.build x words).1 = .ok c →
              (c.requestHeaders.contains name = true ↔ name ∈ d.headers.map Prod.fst)) ∧
    ∀ raw name value, Command.readHeader raw = .ok (.header name value) →
      Text.isBlankText name = false := by
  have hreach : (empty.run ops).Reachable := ⟨ops, rfl⟩
  refine ⟨fun h hh hname => ?_, fun id r hr => ?_,
    fun _ _ _ => Command.isBlankText_of_readHeader⟩
  · obtain ⟨r, hr⟩ := Option.isSome_iff_exists.mp (hreach.owned h hh)
    obtain ⟨d, later, hd, hheaders⟩ := exists_insertedAs ops hr
    have hmem : (h.name, h.value) ∈ (empty.run ops).headersOf h.download :=
      List.mem_map.mpr ⟨h, List.mem_filter.mpr ⟨hh, beq_self_eq_true _⟩, rfl⟩
    rw [hheaders] at hmem
    exact ⟨d, later, hd, (mem_names_append_iff hname).mp (List.mem_map_of_mem hmem)⟩
  · obtain ⟨d, later, hd, hheaders⟩ := exists_insertedAs ops hr
    refine ⟨d, later, hd, hheaders, fun name hname => ?_⟩
    have hstored : name ∈ ((empty.run ops).headersOf id).map Prod.fst ↔
        name ∈ d.headers.map Prod.fst := by
      rw [hheaders]
      exact mem_names_append_iff hname
    refine ⟨hstored, fun x words c hx hc => ?_⟩
    obtain ⟨cookies, referer, hmerged⟩ := hreach.exists_requestHeaders hx hc
    rw [hmerged, contains_mergeHeaders_iff _ _ _ hname, hstored]

end

/-- A download that comes with a blank name. -/
def unnamedDownload : NewDownload where
  uri := "https://example.com/a"
  headers := [(" ", "v"), ("Accept", "x")]

/-- The download is inserted, and two headers are to be added to it, the first with no name. -/
def unnamedRun : List Operation :=
  [.insert unnamedDownload 0, .addHeader 1 "" "w", .addHeader 1 "Host" "h"]

/-- A name that cannot be added is stored with an insertion, and the record has it. -/
theorem not_named_unnamedRun :
    Text.isBlankText " " = true ∧
      (empty.run unnamedRun).addHeader 1 " " "v" = .error (.invalidInput .emptyHeaderName) ∧
      (empty.run unnamedRun).headersOf 1 = [(" ", "v"), ("Accept", "x"), ("Host", "h")] ∧
      ((empty.run unnamedRun).snapshot? 1).map (fun x? => x?.map fun x =>
        (Record.build x ⟨[], 0⟩).1.map fun c => c.requestHeaders.find? " ") =
          .ok (some (.ok (some "v"))) :=
  ⟨by decide, by decide +kernel, by decide +kernel, by decide +kernel⟩

theorem blank_names_of_unnamedRun :
    (∃ d later, InsertedAs unnamedRun 1 d later ∧ " " ∈ d.headers.map Prod.fst) ∧
      ∃ r x c, (empty.run unnamedRun).find? 1 = some r ∧
        (empty.run unnamedRun).snapshot? 1 = .ok (some x) ∧
        (Record.build x ⟨[], 0⟩).1 = .ok c ∧ c.requestHeaders.contains " " = true ∧
        c.requestHeaders.contains "" ≠ true := by
  have hblank : Text.isBlankText " " = true ∧ Text.isBlankText "" = true := by decide
  have hrow : ⟨1, " ", "v"⟩ ∈ (empty.run unnamedRun).headers := by decide +kernel
  have hsome : ((empty.run unnamedRun).find? 1).isSome = true := by decide +kernel
  have hnames : ((empty.run unnamedRun).headersOf 1).map Prod.fst = [" ", "Accept", "Host"] := by
    decide +kernel
  have hread : ((empty.run unnamedRun).snapshot? 1).map (fun x? => x?.map fun x =>
      (Record.build x ⟨[], 0⟩).1.isOk) = .ok (some true) := by decide +kernel
  obtain ⟨hbrought, hdownloads, -⟩ := blank_names_of_run unnamedRun
  obtain ⟨r, hr⟩ := Option.isSome_iff_exists.mp hsome
  obtain ⟨d, later, -, -, hname⟩ := hdownloads 1 r hr
  rw [hnames] at hname
  rcases hx : (empty.run unnamedRun).snapshot? 1 with e | _ | x <;> rw [hx] at hread
  · cases hread
  · cases hread
  rcases hc : (Record.build x ⟨[], 0⟩).1 with e | c
  · simp [Except.map, hc, Except.isOk, Except.toBool] at hread
  obtain ⟨hstored, hsent⟩ := hname " " hblank.1
  obtain ⟨hstored', hsent'⟩ := hname "" hblank.2
  refine ⟨hbrought _ hrow hblank.1, r, x, c, hr, rfl, hc, ?_, ?_⟩
  · exact (hsent x _ c hx hc).mpr (hstored.mp (by decide))
  · exact fun h => absurd (hstored'.mpr ((hsent' x _ c hx hc).mp h)) (by decide)

end Store

end Downloads
