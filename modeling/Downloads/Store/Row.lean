import Downloads.Record.Basic
import Downloads.Saturating
import Downloads.Store.Error
import Downloads.Text.Blank

/-!
# Rows

A stored download as the schema admits it. Three columns are checked against the codes that they
may hold, text columns hold only text, and the other columns hold integers unless another program
wrote something else into them.
-/

namespace Downloads

/-- A stored value. -/
inductive Cell where
  | int (n : Int)
  | text (s : String)
  /-- A number that is no integer of 64 bits. -/
  | real
  deriving Repr, DecidableEq

namespace Cell

/-- The value as a result that may hold null. -/
def read (index : Nat) : Cell → Except DatabaseError FieldValue
  | .int n => .ok (.integer n)
  | .text _ => .error (.notAnInteger index true .text)
  | .real => .error (.notAnInteger index true .real)

/-- The value as the only column of a result that may not hold null. -/
def readInt : Cell → Except DatabaseError Int
  | .int n => .ok n
  | .text _ => .error (.notAnInteger 0 false .text)
  | .real => .error (.notAnInteger 0 false .real)

/-- One more. Text counts as zero, and a sum beyond 64 bits is no integer. -/
def succ : Cell → Cell
  | .int n => if n < maxInt64 then .int (n + 1) else .real
  | .text _ => .int 1
  | .real => .real

/-- Characters that may surround a number: the blank, and the controls from the tab to the carriage
return. -/
def isPadding (c : Char) : Bool := c == ' ' || ('\t' ≤ c && c ≤ '\r')

/-- Text that is written into a column of integers becomes one if it denotes one. -/
def ofText (s : String) : Cell :=
  let number := Text.trimBoth isPadding s.toList
  match Text.parseInteger 64 number with
  | .ok n => .int n
  | .error .tooLarge | .error .tooSmall => if number.tail.all Char.isDigit then .real else .text s
  | .error _ => .text s

end Cell

structure Row where
  id : Int
  uri : String
  destination : Destination
  control : Control
  status : Cell
  visibility : Visibility
  numFailed : Cell
  retryRedirect : Cell
  lastModifiedMs : Cell
  totalBytes : Cell
  currentBytes : Cell
  mimeType : Option String
  title : Option String
  description : Option String
  notificationPackage : Option String
  notificationClass : Option String
  notificationExtras : Option String
  etag : Option String
  cookies : Option String
  userAgent : Option String
  referer : Option String
  mediaScanned : Cell
  filePath : Option String
  visibleInUi : Cell
  completionNotified : Cell
  deriving Repr, DecidableEq

namespace Row

/-- The value of a column, none for null. -/
def cell? (r : Row) : Column → Option Cell
  | .id => some (.int r.id)
  | .uri => some (.text r.uri)
  | .destination => some (.int r.destination.code)
  | .control => some (.int r.control.code)
  | .status => some r.status
  | .visibility => some (.int r.visibility.code)
  | .numFailed => some r.numFailed
  | .retryRedirect => some r.retryRedirect
  | .lastModifiedMs => some r.lastModifiedMs
  | .totalBytes => some r.totalBytes
  | .currentBytes => some r.currentBytes
  | .mimeType => r.mimeType.map .text
  | .title => r.title.map .text
  | .description => r.description.map .text
  | .notificationPackage => r.notificationPackage.map .text
  | .notificationClass => r.notificationClass.map .text
  | .notificationExtras => r.notificationExtras.map .text
  | .etag => r.etag.map .text
  | .cookies => r.cookies.map .text
  | .userAgent => r.userAgent.map .text
  | .referer => r.referer.map .text
  | .mediaScanned => some r.mediaScanned
  | .filePath => r.filePath.map .text
  | .visibleInUi => some r.visibleInUi
  | .completionNotified => some r.completionNotified

/-- The value of a column as it is read. -/
def read (r : Row) (c : Column) : Except DatabaseError FieldValue :=
  match r.cell? c with
  | none => .ok .null
  | some v =>
    if c ∈ Column.integers then v.read c.index
    else
      match v with
      | .text s => .ok (.text s)
      | v => v.read c.index

/-- All columns of a row, in the order of the schema. The first that is unreadable is the
error. -/
def fields (r : Row) : Except DatabaseError Fields := do
  let pairs ← Column.all.mapM fun c => do return (c.name, ← r.read c)
  return Dict.ofList pairs

end Row

end Downloads
