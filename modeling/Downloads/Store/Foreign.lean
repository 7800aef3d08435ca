import Downloads.Store.Basic

/-!
# Foreign writes

Other programs write rows with statements of their own. What they write has to obey the schema:
values are converted to the type of their column where they can be, columns without default need
a value, four columns are checked, and ids are unique.
-/

namespace Downloads.Store

/-- A value as a column stores it, none for null. -/
def stored (c : Column) : FieldValue → Option Cell
  | .null => none
  | .integer n => some (if c ∈ Column.integers then .int n else .text (Text.decimal n))
  | .text s => some (if c ∈ Column.integers then Cell.ofText s else .text s)

/-- The value of a column that a new row does not mention, none for null. -/
def initial : Column → Option Cell
  | .destination | .control | .status | .visibility | .numFailed | .retryRedirect
  | .lastModifiedMs | .currentBytes | .mediaScanned | .completionNotified => some (.int 0)
  | .totalBytes => some (.int (-1))
  | .visibleInUi => some (.int 1)
  | _ => none

/-- Columns that may not be null. -/
def required (c : Column) : Bool := c ∈ Column.integers || c == .uri

/-- The value of a column, where there is one. -/
def requiredCell (cells : Column → Option Cell) (c : Column) : Except Refusal Cell :=
  match cells c with
  | none => .error (.nullValue c)
  | some v => .ok v

/-- The text of a column, none for null. -/
def textCell? (cells : Column → Option Cell) (c : Column) : Option String :=
  match cells c with
  | some (.text s) => some s
  | _ => none

/-- A column that holds a code, under the rule that says which. -/
def checkedCode {α : Type} (ofCode? : Int → Option α) (rule : String) : Cell → Except Refusal α
  | .int n =>
    match ofCode? n with
    | some a => .ok a
    | none => .error (.checkFailed rule)
  | _ => .error (.checkFailed rule)

/-- The row with given values. Nulls are refused first, then the rules are checked in the order of
the schema. -/
def rowOfCells (id : Int) (cells : Column → Option Cell) : Except Refusal Row := do
  for c in Column.all do
    if required c ∧ c ≠ .id then let _ ← requiredCell cells c
  let destination ← checkedCode Destination.ofCode? "destination BETWEEN 0 AND 4"
    (← requiredCell cells .destination)
  let control ← checkedCode Control.ofCode? "control IN (0, 1)" (← requiredCell cells .control)
  let visibility ← checkedCode Visibility.ofCode? "visibility IN (0, 1, 2)"
    (← requiredCell cells .visibility)
  let numFailed ← requiredCell cells .numFailed
  if let .int n := numFailed then
    if n < 0 then throw (.checkFailed "num_failed >= 0")
  return {
    id
    uri := (textCell? cells .uri).getD ""
    destination, control, visibility, numFailed
    status := ← requiredCell cells .status
    retryRedirect := ← requiredCell cells .retryRedirect
    lastModifiedMs := ← requiredCell cells .lastModifiedMs
    totalBytes := ← requiredCell cells .totalBytes
    currentBytes := ← requiredCell cells .currentBytes
    mimeType := textCell? cells .mimeType
    title := textCell? cells .title
    description := textCell? cells .description
    notificationPackage := textCell? cells .notificationPackage
    notificationClass := textCell? cells .notificationClass
    notificationExtras := textCell? cells .notificationExtras
    etag := textCell? cells .etag
    cookies := textCell? cells .cookies
    userAgent := textCell? cells .userAgent
    referer := textCell? cells .referer
    mediaScanned := ← requiredCell cells .mediaScanned
    filePath := textCell? cells .filePath
    visibleInUi := ← requiredCell cells .visibleInUi
    completionNotified := ← requiredCell cells .completionNotified }

/-- Adds a row with the given values, and gives its id. -/
def foreignInsert (s : Store) (values : List (String × FieldValue)) :
    Except StoreError (Int × Store) := do
  for (name, _) in values do
    if (Column.ofName? name).isNone then throw (.database (.refused (.unknownTableColumn name)))
  let given := Dict.ofList values
  let cells (c : Column) : Option Cell :=
    match given.find? c.name with
    | none => initial c
    | some v => stored c v
  let id ← match cells .id with
    | none => s.nextId
    | some (.int n) => pure n
    | some _ => throw (.database (.refused .idMismatch))
  match rowOfCells id cells with
  | .error e => throw (.database (.refused e))
  | .ok r =>
    if (s.find? id).isSome then throw (.database (.refused .duplicateId))
    return (id, s.addRow r)

/-- Writes one column of a row, and gives the number of rows that were written. A row that header
rows point to keeps its id. -/
def foreignSet (s : Store) (id : Int) (name : String) (value : FieldValue) :
    Except StoreError (Nat × Store) := do
  match Column.ofName? name with
  | none => throw (.database (.refused (.unknownColumn name)))
  | some c =>
    match s.find? id with
    | none => return (0, s)
    | some r =>
      let newId ← match c, stored c value with
        | .id, some (.int n) => pure n
        | .id, _ => throw (.database (.refused .idMismatch))
        | _, _ => pure id
      match rowOfCells newId fun d => if d = c then stored c value else r.cell? d with
      | .error e => throw (.database (.refused e))
      | .ok r =>
        if newId = id then
          return (1, { s with rows := s.rows.map fun x => if x.id = id then r else x })
        if (s.find? newId).isSome then throw (.database (.refused .duplicateId))
        if s.countHeaders id ≠ 0 then throw (.database (.refused .referenced))
        return (1, { s with rows := placeRow (s.rows.filter fun x => x.id != id) r })

end Downloads.Store
