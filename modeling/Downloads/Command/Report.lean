import Downloads.Documents.Error
import Downloads.Schedule.Tick
import Downloads.Settings.File
import Downloads.Store.Connection

/-!
# Error reports

How a failed command tells what went wrong: the error, and below it the causes, indented. Several
causes are numbered from zero.
-/

namespace Downloads

/-- An error with its causes, the nearest first. -/
structure Report where
  message : String
  causes : List String := []
  deriving Repr, DecidableEq

namespace Report

def ofCauses (causes : List String) : Report := ⟨causes.headD "", causes.tail⟩

def ofStore (e : StoreError) : Report := ⟨e.message, []⟩

def ofSchedule (e : ScheduleError) : Report :=
  match e with
  | .store _ => ⟨e.message, []⟩
  | .malformed _ error => ⟨e.message, [error.message]⟩

def ofDocument (e : DocumentError) : Report :=
  match e with
  | .payload _ fault => ⟨e.message, [fault.message]⟩
  | _ => ⟨e.message, []⟩

def ofConnection (path : String) (e : ConnectionError) : Report :=
  ⟨"Failed to open database '" ++ path ++ "'", e.causes⟩

def ofSize (path : String) (fault : FileFault) : Report :=
  ⟨"Failed to read payload '" ++ path ++ "'", [fault.message]⟩

/-! ## Text -/

/-- A text behind a margin. Further lines keep the width of the margin. -/
def behind (margin : List Char) (s : String) : List Char :=
  margin ++ s.toList.flatMap fun c =>
    if c = '\n' then '\n' :: List.replicate margin.length ' ' else [c]

/-- The margin of a numbered cause. -/
def numbered (n : Nat) : List Char :=
  List.replicate (5 - (Text.decimalChars n).length) ' ' ++ Text.decimalChars n ++ [':', ' ']

/-- The causes as lines. -/
def causeLines : List String → List (List Char)
  | [] => []
  | [c] => [behind (List.replicate 4 ' ') c]
  | cs => cs.zipIdx.map fun (c, n) => behind (numbered n) c

def render (r : Report) : String :=
  "Error: " ++ r.message
    ++ (if r.causes.isEmpty then "" else "\n\nCaused by:")
    ++ String.ofList ((causeLines r.causes).flatMap ('\n' :: ·)) ++ "\n"

end Report

end Downloads
