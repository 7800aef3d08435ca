import Downloads.Documents.Id
import Downloads.Url.Basic

/-!
# Document nodes

How downloads, and the directory that holds them, look to clients. Size, type and description are
those of a complete payload; until then a label tells the state.
-/

namespace Downloads

/-- The type of a directory. -/
def directoryMimeType : String := "inode/directory"

/-- The type of a complete payload of which none is known. -/
def defaultMimeType : String := "application/octet-stream"

/-- What clients may do with a document. -/
structure DocumentFlags where
  supportsDelete : Bool := false
  supportsThumbnail : Bool := false
  deriving Repr, DecidableEq

/-- The root of the tree. -/
structure RootNode where
  rootId : String
  documentId : String
  title : String
  deriving Repr, DecidableEq

structure DocumentNode where
  documentId : String
  displayName : String
  mimeType : Option String
  size : Option Nat
  summary : Option String
  lastModified : Option Int
  flags : DocumentFlags
  deriving Repr, DecidableEq

/-- The labels of downloads that are not complete. -/
structure StatusLabels where
  queued : String := "Queued"
  running : String := "Running"
  error : String := "Error"
  deriving Repr, DecidableEq

def RootNode.jsonMembers (n : RootNode) : List (String × Json) :=
  [("root_id", .text n.rootId), ("document_id", .text n.documentId), ("title", .text n.title)]

namespace DocumentNode

/-- The directory under an id. -/
def directory (documentId title : String) : DocumentNode where
  documentId
  displayName := title
  mimeType := some directoryMimeType
  size := none
  summary := none
  lastModified := none
  flags := {}

def isDirectory (n : DocumentNode) : Bool := n.mimeType == some directoryMimeType

def jsonMembers (n : DocumentNode) : List (String × Json) :=
  [("document_id", .text n.documentId), ("display_name", .text n.displayName),
    ("mime_type", .ofText? n.mimeType), ("size", .ofInt? (n.size.map Int.ofNat)),
    ("summary", .ofText? n.summary), ("last_modified", .ofInt? n.lastModified),
    ("flags", .object [
      ("supports_delete", .bool n.flags.supportsDelete),
      ("supports_thumbnail", .bool n.flags.supportsThumbnail)])]

end DocumentNode

namespace Record

/-- The name of a download that neither title nor source gives. -/
def fallbackName (r : Record) : String := "download-" ++ Text.decimal r.id

/-- The last part of the source that is not empty. -/
def sourceName? [Url.HostNames] (r : Record) : Option String :=
  match Url.parse r.sourceUri with
  | .error _ => none
  | .ok u => u.lastSegment?.map String.ofList

/-- The title without blanks around it, unless that is empty. -/
def shownTitle? (r : Record) : Option String :=
  (r.displayTitle.map Text.trim).filter fun t => t != ""

/-- The name that clients see: the title, else the last part of the source, else one made of the
id. -/
def displayName [Url.HostNames] (r : Record) : String :=
  (r.shownTitle?.or r.sourceName?).getD r.fallbackName

def toNode [Url.HostNames] (r : Record) (labels : StatusLabels) : DocumentNode :=
  let (size, mimeType, summary) : Option Nat × Option String × Option String :=
    match r.status with
    | .success => (r.knownTotalBytes, some (r.mimeType.getD defaultMimeType), r.description)
    | .notStarted | .pending | .runningPaused => (none, none, some labels.queued)
    | .running => (none, none, some labels.running)
    | .failed _ => (none, none, some labels.error)
  { documentId := DocumentId.ofRecordId r.id
    displayName := r.displayName
    mimeType, size, summary
    lastModified := some r.lastModificationTimeMillis
    flags := {
      supportsDelete := true
      supportsThumbnail := mimeType.any fun m => m.startsWith "image/" } }

end Record

end Downloads
