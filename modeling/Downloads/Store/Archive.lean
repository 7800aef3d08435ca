import Downloads.Store.Foreign
import Downloads.Text.Fields

/-!
# Archives

A store as text, to be kept between runs: a mark, the largest id so far, the rows, and the request
headers. A row that the schema does not admit makes the text no archive.
-/

namespace Downloads

namespace Cell

/-- A value, or null, with a letter for its type. -/
def write : Option Cell → List Char
  | none => ['n']
  | some (.int n) => 'i' :: Text.decimalChars n
  | some (.text s) => 't' :: s.toList
  | some .real => ['r']

def read? : List Char → Option (Option Cell)
  | ['n'] => some none
  | ['r'] => some (some .real)
  | 'i' :: s => (Text.parseInteger 64 s).toOption.map fun n => some (.int n)
  | 't' :: s => some (some (.text (String.ofList s)))
  | _ => none

end Cell

namespace Row

def write (r : Row) : List Char :=
  Text.Fields.write (Column.all.map fun c => Cell.write (r.cell? c))

def ofText? (s : List Char) : Option Row := do
  let cells ← (← Text.Fields.read? s).mapM Cell.read?
  if cells.length ≠ Column.all.length then none
  let cell (c : Column) : Option Cell := (cells[c.index]?).join
  match cell .id with
  | some (.int id) => (Store.rowOfCells id cell).toOption
  | _ => none

end Row

namespace HeaderRow

def write (h : HeaderRow) : List Char :=
  Text.Fields.write [Text.decimalChars h.download, h.name.toList, h.value.toList]

def ofText? (s : List Char) : Option HeaderRow := do
  match ← Text.Fields.read? s with
  | [download, name, value] =>
    let download ← (Text.parseInteger 64 download).toOption
    return ⟨download, String.ofList name, String.ofList value⟩
  | _ => none

end HeaderRow

namespace Store

/-- What every archive starts with. -/
def archiveMark : List Char := "downloads 1".toList

def archive (s : Store) : String :=
  String.ofList (Text.Fields.write [
    archiveMark,
    Text.decimalChars s.lastId,
    Text.Fields.write (s.rows.map Row.write),
    Text.Fields.write (s.headers.map HeaderRow.write)])

def ofArchive? (text : String) : Option Store := do
  match ← Text.Fields.read? text.toList with
  | [mark, lastId, rows, headers] =>
    if mark ≠ archiveMark then none
    let lastId ← (Text.parseInteger 64 lastId).toOption
    let rows ← (← Text.Fields.read? rows).mapM Row.ofText?
    let headers ← (← Text.Fields.read? headers).mapM HeaderRow.ofText?
    return { rows, headers, lastId }
  | _ => none

end Store

end Downloads
