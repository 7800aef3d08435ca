import Downloads.Documents.Error

/-!
# Open modes

The modes that clients may ask for when they open a document. Only reading is granted.
-/

namespace Downloads

/-- How a client wants to open a document. -/
inductive OpenMode where
  | read
  | write
  | writeAppend
  | writeTruncate
  | readWrite
  | readWriteTruncate
  deriving Repr, DecidableEq

namespace OpenMode

def all : List OpenMode :=
  [.read, .write, .writeAppend, .writeTruncate, .readWrite, .readWriteTruncate]

def text : OpenMode → String
  | .read => "r"
  | .write => "w"
  | .writeAppend => "wa"
  | .writeTruncate => "wt"
  | .readWrite => "rw"
  | .readWriteTruncate => "rwt"

/-- Whether the mode grants no writing. -/
def isReadOnly (m : OpenMode) : Bool := m == .read

def parse (s : String) : Except DocumentError OpenMode :=
  match all.find? fun m => m.text == s with
  | some m => .ok m
  | none => .error (.unsupportedMode s)

theorem parse_text (m : OpenMode) : parse m.text = .ok m := by cases m <;> rfl

end OpenMode

end Downloads
