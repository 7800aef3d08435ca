import Downloads.Documents.Error
import Downloads.Text.Blank
import Downloads.Text.Split

/-!
# Document paths

The places of the document tree. A path may have slashes around it; inside, its parts are not
empty.
-/

namespace Downloads

/-- A place of the document tree. -/
inductive DocumentPath where
  | roots
  | root (rootId : String)
  | document (rootId documentId : String)
  | contents (rootId documentId : String)
  deriving Repr, DecidableEq

namespace DocumentPath

def rootId? : DocumentPath → Option String
  | .roots => none
  | .root r | .document r _ | .contents r _ => some r

def documentId? : DocumentPath → Option String
  | .roots | .root _ => none
  | .document _ d | .contents _ d => some d

def display : DocumentPath → String
  | .roots => "roots"
  | .root r => "roots/" ++ r
  | .document r d => "roots/" ++ r ++ "/docs/" ++ d
  | .contents r d => "roots/" ++ r ++ "/docs/" ++ d ++ "/contents"

/-- The place that the parts of a path lead to. -/
def ofParts? : List String → Option DocumentPath
  | ["roots"] => some .roots
  | ["roots", r] => some (.root r)
  | ["roots", r, "docs", d] => some (.document r d)
  | ["roots", r, "docs", d, "contents"] => some (.contents r d)
  | _ => none

/-- The parts of a text between slashes, the slashes around it left out. -/
def parts (text : String) : List (List Char) :=
  Text.splitAt (· == '/') (Text.trimBoth (· == '/') text.toList)

/-- The place that a text names. -/
def parse (text : String) : Except DocumentError DocumentPath :=
  if (parts text).any List.isEmpty then .error (.unsupportedPath text)
  else
    match ofParts? ((parts text).map String.ofList) with
    | some p => .ok p
    | none => .error (.unsupportedPath text)

end DocumentPath

end Downloads
