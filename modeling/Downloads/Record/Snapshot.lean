import Downloads.Dict
import Downloads.Json
import Downloads.Record.Column
import Downloads.Saturating

/-!
# Snapshots

A snapshot is one stored download as plain data: the values of its row under the names of their
columns, and its request headers. Reading a column tells an absent one from a null and from a
value of the wrong type.
-/

namespace Downloads

/-- The value of a column. -/
inductive FieldValue where
  | null
  | integer (n : Int)
  | text (s : String)
  deriving Repr, DecidableEq

namespace FieldValue

def ofText? : Option String → FieldValue
  | none => .null
  | some s => .text s

def toJson : FieldValue → Json
  | .null => .null
  | .integer n => .int n
  | .text s => .text s

/-- Reads a value from JSON: null, an integer of 64 bits or a string, and nothing else. -/
def ofJson? : Json → Option FieldValue
  | .null => some .null
  | .int n => if minInt64 ≤ n ∧ n ≤ maxInt64 then some (.integer n) else none
  | .text s => some (.text s)
  | _ => none

end FieldValue

/-- What makes a value unusable. -/
inductive FieldFault where
  | unexpectedNull
  | expectedInteger
  | expectedText
  | unknownCode (n : Int)
  | outOfRange (n : Int)
  deriving Repr, DecidableEq

def FieldFault.message : FieldFault → String
  | .unexpectedNull => "unexpected NULL"
  | .expectedInteger => "expected integer"
  | .expectedText => "expected text"
  | .unknownCode n => "unknown code " ++ Text.decimal n
  | .outOfRange n => "out of range: " ++ Text.decimal n

/-- Why a snapshot is no record. -/
inductive RecordError where
  /-- The column is absent. -/
  | missingField (column : Column)
  /-- The column holds an unusable value. -/
  | invalidField (column : Column) (fault : FieldFault)
  deriving Repr, DecidableEq

namespace RecordError

def column : RecordError → Column
  | .missingField c => c
  | .invalidField c _ => c

def message : RecordError → String
  | .missingField c => "missing required field '" ++ c.name ++ "' in download snapshot"
  | .invalidField c f => "invalid value for field '" ++ c.name ++ "': " ++ f.message

end RecordError

/-- The values of a row under the names of their columns. -/
abbrev Fields := Dict FieldValue

namespace Fields

/-- The value of a column that holds an integer. -/
def integer (f : Fields) (c : Column) : Except RecordError Int :=
  match f.find? c.name with
  | none => .error (.missingField c)
  | some .null => .error (.invalidField c .unexpectedNull)
  | some (.text _) => .error (.invalidField c .expectedInteger)
  | some (.integer n) => .ok n

/-- The value of a column that holds a text or null. -/
def text? (f : Fields) (c : Column) : Except RecordError (Option String) :=
  match f.find? c.name with
  | none => .error (.missingField c)
  | some .null => .ok none
  | some (.text s) => .ok (some s)
  | some (.integer _) => .error (.invalidField c .expectedText)

def text (f : Fields) (c : Column) : Except RecordError String :=
  match f.text? c with
  | .error e => .error e
  | .ok none => .error (.invalidField c .unexpectedNull)
  | .ok (some s) => .ok s

/-- The value of a column that holds the code of some enumeration. -/
def coded {α : Type} (f : Fields) (c : Column) (ofCode? : Int → Option α) :
    Except RecordError α :=
  match f.integer c with
  | .error e => .error e
  | .ok n =>
    match ofCode? n with
    | none => .error (.invalidField c (.unknownCode n))
    | some a => .ok a

def toJson (f : Fields) : Json := .object (f.entries.map fun (name, v) => (name, v.toJson))

end Fields

/-- One stored download as plain data. -/
structure Snapshot where
  row : Fields
  headers : List (String × String)
  deriving Repr, DecidableEq

def Snapshot.toJson (s : Snapshot) : Json :=
  .object [("row", s.row.toJson),
    ("headers", .list (s.headers.map fun (name, value) => .list [.text name, .text value]))]

/-- The id of the download, if the row has a usable one. -/
def Snapshot.id? (s : Snapshot) : Option Int :=
  match s.row.integer .id with
  | .ok n => some n
  | .error _ => none

end Downloads
