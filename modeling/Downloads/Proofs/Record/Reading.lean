import Downloads.Proofs.Store.Sound

/-!
# Stored rows as records

What is read of a sound row. All its columns can be read unless the count of failures is no integer
any more, and then the snapshot is a record (`Row.record`) exactly if that count has 32 bits.
-/

namespace Downloads

/-- The integer in a cell, zero if there is none. -/
def Cell.number : Cell → Int
  | .int n => n
  | .text _ | .real => 0

/-! ## Snapshots -/

namespace Row

variable {r : Row}

/-- The value of a column, as far as it can be read. -/
def value (r : Row) (c : Column) : FieldValue :=
  match r.cell? c with
  | none | some .real => .null
  | some (.int n) => .integer n
  | some (.text s) => .text s

/-- The values of all columns. -/
def values (r : Row) : Fields := Dict.ofList (Column.all.map fun c => (c.name, r.value c))

theorem find?_foldl_insert (v : Column → FieldValue) (cs : List Column) (d : Fields) (c : Column) :
    ((cs.map fun c => (c.name, v c)).foldl (fun d e => d.insert e.1 e.2) d).find? c.name =
      if c ∈ cs then some (v c) else d.find? c.name := by
  induction cs generalizing d with
  | nil => simp
  | cons a cs ih =>
    rw [List.map_cons, List.foldl_cons, ih, Dict.find?_insert]
    by_cases ha : c = a
    · subst ha
      simp
    · have hname : c.name ≠ a.name := fun h => ha (Column.name_injective h)
      simp [ha, hname]

theorem find?_values (r : Row) (c : Column) : r.values.find? c.name = some (r.value c) := by
  unfold values Dict.ofList
  rw [find?_foldl_insert, if_pos (Column.mem_all c)]

theorem contains_values (r : Row) (c : Column) : r.values.contains c.name = true := by
  rw [Dict.contains, find?_values]
  rfl

/-- All columns of integers hold one. -/
def Legible (r : Row) : Prop := ∀ c ∈ Column.integers, ∃ n, r.cell? c = some (.int n)

theorem Sound.legible (h : r.Sound) {n : Int} (hn : r.numFailed = .int n) : r.Legible := by
  intro c hc
  obtain ⟨st, -, hst⟩ := h.status
  have hflag : ∃ n, r.completionNotified = .int n := h.completionNotified.elim (⟨0, ·⟩) (⟨1, ·⟩)
  have hcells := And.intro h.retryRedirect <| And.intro h.lastModifiedMs <|
    And.intro h.totalBytes <| And.intro h.currentBytes <| And.intro h.mediaScanned h.visibleInUi
  cases c <;> simp [Column.integers] at hc <;> simp [cell?, hst, hn, hflag, hcells]

theorem cell?_of_not_mem_integers (r : Row) {c : Column} (hc : c ∉ Column.integers) :
    ∃ o : Option String, r.cell? c = o.map .text := by
  cases c
  case uri => exact ⟨some r.uri, rfl⟩
  case id | destination | control | status | visibility | numFailed | retryRedirect
      | lastModifiedMs | totalBytes | currentBytes | mediaScanned | visibleInUi
      | completionNotified =>
    exact absurd (by decide) hc
  all_goals exact ⟨_, rfl⟩

theorem Legible.read (h : r.Legible) (c : Column) : r.read c = .ok (r.value c) := by
  unfold Row.read value
  by_cases hc : c ∈ Column.integers
  · obtain ⟨n, hn⟩ := h c hc
    simp only [hn, if_pos hc]
    rfl
  · obtain ⟨o, ho⟩ := r.cell?_of_not_mem_integers hc
    cases o <;> simp [ho, hc]

/-- A row of which each column can be read. -/
theorem fields_of_read {v : Column → FieldValue} (h : ∀ c, r.read c = .ok (v c)) :
    r.fields = .ok (Dict.ofList (Column.all.map fun c => (c.name, v c))) := by
  have hread : (fun c => do return (c.name, ← r.read c)) =
      fun c => (pure (c.name, v c) : Except DatabaseError (String × FieldValue)) := by
    funext c
    rw [h c]
    rfl
  unfold Row.fields
  rw [hread, List.mapM_pure]
  rfl

theorem Legible.fields (h : r.Legible) : r.fields = .ok r.values := fields_of_read h.read

/-- A row whose count of failures is no integer cannot be read. -/
theorem Sound.fields_of_real (h : r.Sound) (hn : r.numFailed = .real) :
    r.fields = .error (.notAnInteger 6 true .real) := by
  obtain ⟨st, -, hst⟩ := h.status
  simp [Row.fields, Column.all, Column.integers, Column.index, Row.read, cell?, hst, hn, Cell.read,
    bind, Except.bind, pure, Except.pure]

/-! ## Columns by type -/

theorem integer_values {c : Column} {n : Int} (h : r.cell? c = some (.int n)) :
    r.values.integer c = .ok n := by
  simp only [Fields.integer, find?_values, value, h]

theorem text?_values {c : Column} {o : Option String} (h : r.cell? c = o.map .text) :
    r.values.text? c = .ok o := by
  cases o <;> simp [Fields.text?, find?_values, value, h]

theorem coded_values {α : Type} {c : Column} {n : Int} {ofCode? : Int → Option α} {a : α}
    (h : r.cell? c = some (.int n)) (ha : ofCode? n = some a) :
    r.values.coded c ofCode? = .ok a := by
  simp only [Fields.coded, integer_values h, ha]

/-! ## Records -/

/-- The component to notify. -/
def target (r : Row) : Option NotificationTarget :=
  r.notificationPackage.map fun p => ⟨p, r.notificationClass, r.notificationExtras⟩

/-- The record of a row with a status and a count of failures, with no jitter. -/
def record (r : Row) (status : Status) (failures : Nat) (headers : List (String × String)) :
    Record where
  id := r.id
  sourceUri := r.uri
  destination := r.destination
  control := r.control
  status
  visibility := r.visibility
  numFailedAttempts := failures
  retryAfterSeconds := (PackedRetry.unpack r.retryRedirect.number).1
  redirectCount := (PackedRetry.unpack r.retryRedirect.number).2
  lastModificationTimeMillis := r.lastModifiedMs.number
  totalBytes := r.totalBytes.number
  currentBytes := r.currentBytes.number
  mimeType := r.mimeType
  displayTitle := r.title
  description := r.description
  notificationTarget := r.target
  etag := r.etag
  cookies := r.cookies
  userAgent := r.userAgent
  referer := r.referer
  mediaScanned := r.mediaScanned.number != 0
  filePath := r.filePath
  visibleInUi := r.visibleInUi.number != 0
  jitterFuzz := 0
  requestHeaders := mergeHeaders headers r.cookies r.referer

theorem readFailures_values {n : Nat} (h : r.numFailed = .int n) :
    Record.readFailures r.values =
      if (n : Int) ≤ Record.maxFailures then .ok n
      else .error (.invalidField .numFailed (.outOfRange n)) := by
  have hn : r.values.integer .numFailed = .ok (n : Int) := integer_values (by rw [cell?, h])
  simp only [Record.readFailures, hn, bind, Except.bind]
  split
  · rename_i hle
    rw [if_pos hle.2]
    rfl
  · rename_i hle
    rw [if_neg fun h => hle ⟨Int.natCast_nonneg n, h⟩]
    rfl

theorem readTarget_values (r : Row) : Record.readTarget r.values = .ok r.target := by
  simp only [Record.readTarget, text?_values (r := r) (c := .notificationPackage) rfl,
    text?_values (r := r) (c := .notificationClass) rfl,
    text?_values (r := r) (c := .notificationExtras) rfl, bind, Except.bind]
  rfl

end Row

namespace Record

theorem build_of_error {x : Snapshot} {e : RecordError} (h : ofSnapshot x = .error e)
    (words : RandomWords) : build x words = (.error e, words) := by
  simp only [build, h]

theorem build_of_ok {x : Snapshot} {r : Record} (h : ofSnapshot x = .ok r) (words : RandomWords) :
    build x words = (.ok { r with jitterFuzz := words.drawJitter.1 }, words.drawJitter.2) := by
  simp only [build, h]

end Record

/-- Of a snapshot that is a record, the id can be read. -/
theorem Snapshot.id?_of_record {x : Snapshot} {r : Record} (h : Record.ofSnapshot x = .ok r) :
    x.id? = some r.id := by
  have hid : x.row.integer .id = .ok r.id := by
    simp only [Record.ofSnapshot, bind, Except.bind] at h
    repeat (split at h; · cases h)
    cases h
    assumption
  simp only [id?, hid]

/-- **Reading a row.** The values of a legible row with a storable status are a record exactly if
its count of failures has 32 bits. -/
theorem Record.ofSnapshot_values {r : Row} (h : r.Legible) {st : Status} (hst : st.Storable)
    (hcode : r.status = .int st.code) {n : Nat} (hn : r.numFailed = .int n)
    (headers : List (String × String)) :
    Record.ofSnapshot ⟨r.values, headers⟩ =
      if (n : Int) ≤ Record.maxFailures then .ok (r.record st n headers)
      else .error (.invalidField .numFailed (.outOfRange n)) := by
  have hint : ∀ {c : Column} {v : Cell}, c ∈ Column.integers → r.cell? c = some v →
      r.values.integer c = .ok v.number := by
    intro c v hc hv
    obtain ⟨m, hm⟩ := h c hc
    rw [hv] at hm
    cases hm
    exact Row.integer_values hv
  have huri : r.values.text .uri = .ok r.uri := by
    simp only [Fields.text, Row.text?_values (r := r) (c := .uri) (o := some r.uri) rfl]
  have hpath : readFilePath r.values = .ok r.filePath := by
    rw [readFilePath, if_pos (r.contains_values .filePath)]
    exact Row.text?_values rfl
  have hvisible : readVisibleInUi r.values = .ok (r.visibleInUi.number != 0) := by
    rw [readVisibleInUi, if_pos (r.contains_values .visibleInUi), hint (by decide) rfl]
    rfl
  simp only [ofSnapshot, huri, hpath, hvisible, Row.readFailures_values hn, Row.readTarget_values,
    hint (c := .id) (by decide) rfl, hint (c := .retryRedirect) (by decide) rfl,
    hint (c := .lastModifiedMs) (by decide) rfl, hint (c := .totalBytes) (by decide) rfl,
    hint (c := .currentBytes) (by decide) rfl, hint (c := .mediaScanned) (by decide) rfl,
    Row.coded_values (r := r) (c := .destination) rfl (Destination.ofCode?_code _),
    Row.coded_values (r := r) (c := .control) rfl (Control.ofCode?_code _),
    Row.coded_values (r := r) (c := .visibility) rfl (Visibility.ofCode?_code _),
    Row.coded_values (r := r) (c := .status) (congrArg some hcode) (Status.ofCode?_code hst),
    Row.text?_values (r := r) (c := .mimeType) rfl, Row.text?_values (r := r) (c := .title) rfl,
    Row.text?_values (r := r) (c := .description) rfl, Row.text?_values (r := r) (c := .etag) rfl,
    Row.text?_values (r := r) (c := .cookies) rfl, Row.text?_values (r := r) (c := .userAgent) rfl,
    Row.text?_values (r := r) (c := .referer) rfl, bind, Except.bind]
  by_cases hle : (n : Int) ≤ maxFailures
  · simp only [if_pos hle]
    rfl
  · simp only [if_neg hle]

end Downloads
