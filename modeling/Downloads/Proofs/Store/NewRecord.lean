import Downloads.Proofs.Store.Frame
import Downloads.Proofs.Store.ReadBack

/-!
# What is inserted is what is read

A new download is a row and its headers, and it stays so while only headers are added to it,
whatever is done to other downloads (`Store.Keeps`). So the record that is read of it says what its
caller said, and its headers are merged from the rows that were inserted and those that were added
(`Store.Reachable.reads_inserted`).
-/

namespace Downloads

/-! ## Merged headers -/

namespace Dict

variable {α : Type}

/-- The last pair with a key is the one that counts. -/
theorem find?_ofList (pairs : List (String × α)) (key : String) :
    (ofList pairs).find? key = pairs.reverse.lookup key := by
  induction pairs using List.reverseRecOn with
  | nil => rfl
  | append_singleton pairs e ih =>
    rw [ofList_concat, find?_insert, ih, List.reverse_append, List.reverse_singleton,
      List.singleton_append, lookup_cons_eq]

theorem nodup_insert {d : Dict α} (h : (d.entries.map Prod.fst).Nodup) (key : String) (v : α) :
    ((d.insert key v).entries.map Prod.fst).Nodup := by
  have hkept : ((d.erase key).entries.map Prod.fst).Nodup := h.sublist (List.filter_sublist.map _)
  have hnew : key ∉ (d.erase key).entries.map Prod.fst := by simp [erase]
  rw [insert, List.map_append]
  exact hkept.append (List.nodup_singleton key) (List.disjoint_singleton.mpr hnew)

theorem nodup_ofList (pairs : List (String × α)) : ((ofList pairs).entries.map Prod.fst).Nodup := by
  induction pairs using List.reverseRecOn with
  | nil => exact List.nodup_nil
  | append_singleton pairs e ih =>
    rw [ofList_concat]
    exact nodup_insert ih e.1 e.2

end Dict

/-- The headers that a download sends: its cookies and its referer under their names, for every
other name the last row that has it, and none besides. -/
structure MergedHeaders (rows : List (String × String)) (cookies referer : Option String)
    (headers : Dict String) : Prop where
  ofCookies : ∀ v, cookies = some v → headers.find? "Cookie" = some v
  ofReferer : ∀ v, referer = some v → headers.find? "Referer" = some v
  ofRows : ∀ name, (name = "Cookie" → cookies = none) → (name = "Referer" → referer = none) →
    headers.find? name = rows.reverse.lookup name
  /-- No name occurs twice. -/
  nodup : (headers.entries.map Prod.fst).Nodup

theorem find?_mergeHeaders (rows : List (String × String)) (cookies referer : Option String)
    (name : String) :
    (mergeHeaders rows cookies referer).find? name =
      ((if name = "Referer" then referer else none).or
        (if name = "Cookie" then cookies else none)).or (rows.reverse.lookup name) := by
  cases cookies <;> cases referer <;>
    simp only [mergeHeaders, Dict.find?_insert, Dict.find?_ofList, cookieHeader, refererHeader] <;>
    split_ifs <;> rfl

theorem mergedHeaders (rows : List (String × String)) (cookies referer : Option String) :
    MergedHeaders rows cookies referer (mergeHeaders rows cookies referer) where
  ofCookies v hv := by simp [find?_mergeHeaders, hv]
  ofReferer v hv := by simp [find?_mergeHeaders, hv]
  ofRows name hcookies hreferer := by
    rw [find?_mergeHeaders]
    split_ifs <;> simp_all
  nodup := by
    have hrows := Dict.nodup_ofList rows
    cases cookies <;> cases referer <;> simp only [mergeHeaders]
    · exact hrows
    · exact Dict.nodup_insert hrows _ _
    · exact Dict.nodup_insert hrows _ _
    · exact Dict.nodup_insert (Dict.nodup_insert hrows _ _) _ _

/-! ## The record of a new download -/

/-- What a new download is read as while nothing but its headers changes. -/
def NewDownload.record (d : NewDownload) (id now : Int) (requestHeaders : Dict String)
    (jitterFuzz : Nat) : Record where
  id
  sourceUri := d.uri
  destination := d.destination
  control := d.control
  status := .pending
  visibility := d.visibility
  numFailedAttempts := 0
  retryAfterSeconds := 0
  redirectCount := 0
  lastModificationTimeMillis := now
  totalBytes := -1
  currentBytes := 0
  mimeType := d.mimeType
  displayTitle := d.title
  description := d.description
  notificationTarget := d.notificationTarget
  etag := none
  cookies := d.cookies
  userAgent := d.userAgent
  referer := d.referer
  mediaScanned := false
  filePath := none
  visibleInUi := d.visibleInUi
  jitterFuzz
  requestHeaders

theorem NewDownload.target_row (d : NewDownload) (id now : Int) :
    (d.row id now).target = d.notificationTarget := by
  rcases h : d.notificationTarget with - | ⟨p, c, e⟩ <;> simp [Row.target, row, h]

theorem NewDownload.record_row (d : NewDownload) (id now : Int) (headers : List (String × String)) :
    (d.row id now).record .pending 0 headers =
      d.record id now (mergeHeaders headers d.cookies d.referer) 0 := by
  have hvisible : (Cell.number (d.row id now).visibleInUi != 0) = d.visibleInUi := by
    cases hv : d.visibleInUi <;> simp [row, Cell.number, hv]
  have hretry : PackedRetry.unpack (Cell.number (d.row id now).retryRedirect) = (0, 0) := by
    show PackedRetry.unpack 0 = (0, 0)
    decide
  simp only [Row.record, record, d.target_row, hvisible, hretry]
  rfl

namespace Store

/-! ## Downloads that only get headers -/

section

variable [Url.HostNames] {s t : Store} {id : Int} {r : Row}
  {headers added : List (String × String)}

/-- A download is stored with this row and these headers. -/
structure Keeps (s : Store) (r : Row) (headers : List (String × String)) : Prop where
  reachable : s.Reachable
  row : s.find? r.id = some r
  headers : s.headersOf r.id = headers

/-- What becomes of a store while headers are added to a download. The calls in between are about
other downloads, and may fail. -/
inductive HeaderRun (id : Int) (s : Store) : List (String × String) → Store → Prop where
  | start : HeaderRun id s [] s
  | header {added : List (String × String)} {t u : Store} {name value : String}
      (h : HeaderRun id s added t) (hok : t.addHeader id name value = .ok u) :
      HeaderRun id s (added ++ [(name, value)]) u
  | other {added : List (String × String)} {t : Store} (h : HeaderRun id s added t) (op : Operation)
      (hop : op.target? ≠ some id) : HeaderRun id s added (t.after op)

/-- A new download is its row and its headers. -/
theorem Reachable.keeps_insert (h : s.Reachable) {d : NewDownload} {now : Int}
    (hins : s.insert d now = .ok (id, t)) : t.Keeps (d.row id now) d.headers := by
  have hok := apply_insert_of_ok hins
  obtain ⟨i, hi, -, hrow, hheaders⟩ := (h.frames hok).inserted d now rfl
  cases hi
  exact ⟨after_of_ok hok ▸ h.after _, hrow, hheaders⟩

namespace Keeps

theorem addHeader (h : s.Keeps r headers) {name value : String}
    (hok : s.addHeader r.id name value = .ok t) : t.Keeps r (headers ++ [(name, value)]) := by
  have happly := apply_addHeader_of_ok hok
  have hframes := h.reachable.frames happly
  refine ⟨after_of_ok happly ▸ h.reachable.after _, ?_, ?_⟩
  · rw [addHeader_eq_ok hok]
    exact h.row
  · rw [hframes.headers r.id rfl, h.headers]
    rfl

/-- What is done to other downloads, with success or without, is not seen. -/
theorem after (h : s.Keeps r headers) {op : Operation} (hop : op.target? ≠ some r.id) :
    (s.after op).Keeps r headers := by
  refine ⟨h.reachable.after op, ?_, ?_⟩
  · rw [find?_after_of_some op h.row, Operation.effect_of_ne hop]
  · rcases happly : s.apply op with e | ⟨o, t⟩
    · rw [after_of_error happly, h.headers]
    · have hnew : o ≠ .inserted r.id := by
        rintro rfl
        obtain ⟨d, now, -, hins⟩ := apply_eq_inserted happly
        exact ne_of_insert hins h.row rfl
      rw [after_of_ok happly, ((h.reachable.frames happly).others r.id hop hnew).2, h.headers]

theorem headerRun (h : s.Keeps r headers) (hrun : HeaderRun r.id s added t) :
    t.Keeps r (headers ++ added) := by
  induction hrun with
  | start => rwa [List.append_nil]
  | header _ hok ih =>
    rw [← List.append_assoc]
    exact ih.addHeader hok
  | other _ op hop ih => exact ih.after hop

/-- A row that is kept as it was inserted is read as its caller said. -/
theorem reads {d : NewDownload} {now : Int} (h : s.Keeps (d.row id now) headers) :
    s.Reads id (d.record id now (mergeHeaders headers d.cookies d.referer) 0) := by
  refine (h.reachable.reads_iff h.row nofun).mpr ⟨.pending, 0, Status.storable_pending, rfl, rfl,
    by decide, ?_⟩
  rw [h.headers, d.record_row]

end Keeps

/-- **What is inserted is what is read.** A download with an accepted address is inserted unless no
id is left. Whatever headers are added to it and whatever is done to other downloads, the record
that is built of it says what its caller said, and that nothing happened to it yet. Its headers are
merged from those inserted and those added after them. -/
theorem Reachable.reads_inserted (h : s.Reachable) (d : NewDownload) (now : Int) {url : Url}
    (hurl : Url.parse d.uri = .ok url) :
    (maxInt64 ≤ s.lastId ∧ s.insert d now = .error (.database (.refused .full))) ∨
      ∃ id t, s.insert d now = .ok (id, t) ∧ s.find? id = none ∧
        ∀ added u, HeaderRun id t added u →
          ∃ x headers, u.snapshot? id = .ok (some x) ∧
            MergedHeaders (d.headers ++ added) d.cookies d.referer headers ∧
            ∀ words : RandomWords, Record.build x words =
              (.ok (d.record id now headers words.drawJitter.1), words.drawJitter.2) := by
  have hcheck : d.check = .ok () := by simp only [NewDownload.check, hurl]
  rcases hid : s.nextId with e | id
  · left
    obtain ⟨rfl, hlast⟩ := h.ordered.of_nextId_error hid
    refine ⟨hlast, ?_⟩
    simp only [insert, hcheck, hid, bind, Except.bind]
  · right
    obtain ⟨t, hins⟩ : ∃ t, s.insert d now = .ok (id, t) := by
      simp only [insert, hcheck, hid, bind, Except.bind]
      exact ⟨_, rfl⟩
    refine ⟨id, t, hins, find?_of_nextId hid, fun added u hrun => ?_⟩
    obtain ⟨x, hx, hrecord⟩ := ((h.keeps_insert hins).headerRun hrun).reads
    exact ⟨x, _, hx, mergedHeaders _ _ _, Record.build_of_ok hrecord⟩

end

/-- A download with cookies of its own and a row for them. -/
def cookieDownload : NewDownload where
  uri := "https://example.com/b"
  destination := .fileUri
  control := .paused
  visibility := .hidden
  title := some "b"
  notificationTarget := some ⟨"p", none, some "e"⟩
  cookies := some "k=v"
  visibleInUi := false
  headers := [("Cookie", "a"), ("Referer", "r"), ("Accept", "x")]

/-- The store with the download. -/
def cookieStore : Store := pairStore.after (.insert cookieDownload 7)

/-- The store after calls on all its downloads, of which one fails. -/
def headerStore : Store :=
  cookieStore.run [.addHeader 3 "Accept" "y", .delete 1, .insert headedDownload 8,
    .markFailed 2 399 9, .addHeader 3 "accept" "z"]

theorem headerRun_headerStore :
    HeaderRun 3 cookieStore [("Accept", "y"), ("accept", "z")] headerStore := by
  have hfirst : cookieStore.addHeader 3 "Accept" "y" =
      .ok (cookieStore.after (.addHeader 3 "Accept" "y")) := by decide +kernel
  have hlast : (cookieStore.run [.addHeader 3 "Accept" "y", .delete 1, .insert headedDownload 8,
      .markFailed 2 399 9]).addHeader 3 "accept" "z" = .ok headerStore := by decide +kernel
  have hrun := HeaderRun.start.header hfirst
  exact (((hrun.other (.delete 1) (by decide)).other (.insert headedDownload 8) (by decide)).other
    (.markFailed 2 399 9) (by decide)).header hlast

theorem reads_inserted_cookieDownload :
    pairStore.Reachable ∧ pairStore.insert cookieDownload 7 = .ok (3, cookieStore) ∧
      headerStore.find? 1 = none ∧
      ∃ x headers, headerStore.snapshot? 3 = .ok (some x) ∧
        Record.build x ⟨[2147483648], 0⟩ =
          (.ok (cookieDownload.record 3 7 headers 500), ⟨[], 1⟩) ∧
        ["Cookie", "Referer", "Accept", "accept", "Host"].map headers.find? =
          [some "k=v", some "r", some "y", some "z", none] := by
  have hreach : pairStore.Reachable := ⟨_, rfl⟩
  obtain ⟨url, hurl⟩ : ∃ url, Url.parse cookieDownload.uri = .ok url :=
    ⟨_, by with_unfolding_all rfl⟩
  have hins : pairStore.insert cookieDownload 7 = .ok (3, cookieStore) := by decide +kernel
  rcases hreach.reads_inserted cookieDownload 7 hurl with ⟨-, herror⟩ | ⟨id, t, hok, -, hreads⟩
  · rw [hins] at herror
    cases herror
  rw [hins] at hok
  cases hok
  obtain ⟨x, headers, hx, hmerged, hbuild⟩ := hreads _ _ headerRun_headerStore
  refine ⟨hreach, hins, by decide +kernel, x, headers, hx, hbuild _, ?_⟩
  have hrow : ∀ name, name ≠ "Cookie" → headers.find? name = _ :=
    fun name hname => hmerged.ofRows name (absurd · hname) fun _ => rfl
  simp only [List.map_cons, List.map_nil, hmerged.ofCookies "k=v" rfl, hrow "Referer" (by decide),
    hrow "Accept" (by decide), hrow "accept" (by decide), hrow "Host" (by decide)]
  decide

end Store

end Downloads
