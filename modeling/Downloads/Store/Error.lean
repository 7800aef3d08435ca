import Downloads.Record.Column
import Downloads.Text.Integer
import Downloads.Url.Host

/-!
# Store errors

Why a call on the store fails: the caller passed something that is never stored, the download
does not exist, or the database failed. A failure of the database has a kind, on which callers
act, and may carry a hint.
-/

namespace Downloads

/-- What callers can do about a failure of the database. -/
inductive FailureKind where
  /-- Somebody else writes. -/
  | busy
  /-- A value breaks a rule of the schema. -/
  | constraint
  /-- A stored value has not the type of its column. -/
  | decode
  /-- The database cannot be reached. -/
  | unavailable
  | other
  deriving Repr, DecidableEq

namespace FailureKind

def name : FailureKind → String
  | .busy => "busy"
  | .constraint => "constraint"
  | .decode => "decode"
  | .unavailable => "unavailable"
  | .other => "other"

def suggestion : FailureKind → String
  | .busy =>
    "\n  Suggestion: Another process is writing the database; retry once it finishes"
  | .constraint => "\n  Suggestion: A value is outside the range the schema accepts"
  | .unavailable => "\n  Suggestion: Check that the database file is reachable"
  | .decode | .other => ""

end FailureKind

/-- The kind of rule that a statement broke. -/
inductive Violation where
  | unique
  | foreignKey
  | notNull
  | check
  | other
  deriving Repr, DecidableEq

/-- How a call on the database can fail. -/
inductive Failure where
  /-- The engine refused a statement with a result code, given as text. -/
  | refused (code : Option String) (violation : Violation)
  | missingColumn
  | unreadableColumn
  | unreadableValue
  | poolExhausted
  | poolClosed
  | fileAccess
  | other
  deriving Repr, DecidableEq

/-- The primary result code: an extended one keeps it in its low byte. -/
def primaryCode? (code : String) : Option Nat :=
  match Text.parseInteger 32 code.toList with
  | .ok n => some (n % 256).toNat
  | .error _ => none

/-- The kind of a failure. The primary result code decides first; without a known one, any broken
rule counts as a constraint. -/
def Failure.kind : Failure → FailureKind
  | .refused code violation =>
    match code.bind primaryCode? with
    | some 5 | some 6 => .busy
    | some 19 => .constraint
    | _ => if violation = .other then .other else .constraint
  | .missingColumn | .unreadableColumn | .unreadableValue => .decode
  | .poolExhausted | .poolClosed | .fileAccess => .unavailable
  | .other => .other

/-- Why the engine refuses a statement. -/
inductive Refusal where
  /-- Somebody else holds the write lock. -/
  | locked
  /-- No id is left. -/
  | full
  /-- The id is not an integer. -/
  | idMismatch
  | checkFailed (rule : String)
  | nullValue (column : Column)
  | duplicateId
  /-- Header rows point to the id. -/
  | referenced
  /-- A statement that changes a row names an unknown column. -/
  | unknownColumn (name : String)
  /-- A statement that adds a row names an unknown column. -/
  | unknownTableColumn (name : String)
  | cannotOpen
  | notADatabase
  deriving Repr, DecidableEq

namespace Refusal

def code : Refusal → Nat
  | .locked => 5
  | .full => 13
  | .idMismatch => 20
  | .checkFailed _ => 275
  | .nullValue _ => 1299
  | .duplicateId => 1555
  | .referenced => 787
  | .unknownColumn _ | .unknownTableColumn _ => 1
  | .cannotOpen => 14
  | .notADatabase => 26

def text : Refusal → String
  | .locked => "database is locked"
  | .full => "database or disk is full"
  | .idMismatch => "datatype mismatch"
  | .checkFailed rule => "CHECK constraint failed: " ++ rule
  | .nullValue c => "NOT NULL constraint failed: downloads." ++ c.name
  | .duplicateId => "UNIQUE constraint failed: downloads.id"
  | .referenced => "FOREIGN KEY constraint failed"
  | .unknownColumn name => "no such column: " ++ name
  | .unknownTableColumn name => "table downloads has no column named " ++ name
  | .cannotOpen => "unable to open database file"
  | .notADatabase => "file is not a database"

def violation : Refusal → Violation
  | .checkFailed _ => .check
  | .nullValue _ => .notNull
  | .duplicateId => .unique
  | .referenced => .foreignKey
  | _ => .other

def detail (r : Refusal) : String := "(code: " ++ Text.decimal r.code ++ ") " ++ r.text

def message (r : Refusal) : String := "error returned from database: " ++ r.detail

end Refusal

/-- The type of a stored value that is no integer. -/
inductive ForeignType where
  | text
  | real
  deriving Repr, DecidableEq

def ForeignType.name : ForeignType → String
  | .text => "TEXT"
  | .real => "REAL"

/-- A failed call on the database. -/
inductive DatabaseError where
  | refused (r : Refusal)
  /-- The value at a place of the result is no integer. A result may allow null or not. -/
  | notAnInteger (index : Nat) (nullable : Bool) (found : ForeignType)
  | closed
  deriving Repr, DecidableEq

namespace DatabaseError

/-- How the call failed. -/
def failure : DatabaseError → Failure
  | .refused r => .refused (some (Text.decimal r.code)) r.violation
  | .notAnInteger .. => .unreadableColumn
  | .closed => .poolClosed

def message : DatabaseError → String
  | .refused r => r.message
  | .notAnInteger index nullable found =>
    "error occurred while decoding column " ++ Text.decimal index
      ++ ": mismatched types; Rust type `"
      ++ (if nullable then "core::option::Option<i64>" else "i64")
      ++ "` (as SQL type `INTEGER`) is not compatible with SQL type `" ++ found.name ++ "`"
  | .closed => "attempted to acquire a connection on a closed pool"

end DatabaseError

/-- What the store refuses to keep. -/
inductive InputFault where
  | uri (error : UrlError)
  | emptyHeaderName
  | notAFailureCode (code : UInt16)
  deriving Repr, DecidableEq

namespace InputFault

/-- The field that is wrong. -/
def field : InputFault → String
  | .uri _ => "uri"
  | .emptyHeaderName => "header"
  | .notAFailureCode _ => "status"

/-- What is wrong with it. -/
def reason : InputFault → String
  | .uri e => e.message
  | .emptyHeaderName => "empty header name"
  | .notAFailureCode c => Text.decimal c.toNat ++ " is not a failure code"

end InputFault

/-- Why a call on the store fails. -/
inductive StoreError where
  | database (error : DatabaseError)
  | notFound (id : Int)
  | invalidInput (fault : InputFault)
  deriving Repr, DecidableEq

def StoreError.message : StoreError → String
  | .database e =>
    let kind := e.failure.kind
    "database error (" ++ kind.name ++ "): " ++ e.message ++ kind.suggestion
  | .notFound id =>
    "download not found: id " ++ Text.decimal id
      ++ "\n  Suggestion: The download may have been deleted or the ID is incorrect"
  | .invalidInput f => "invalid " ++ f.field ++ ": " ++ f.reason

end Downloads
