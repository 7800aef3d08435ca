import Downloads.Record.Code
import Downloads.Record.Jitter
import Downloads.Record.PackedRetry
import Downloads.Record.Snapshot

/-!
# Records

A record is what one snapshot says about a download, with every code decoded. It is built anew
each time a download is looked at and is never written back. Building it is all or nothing: the
first unusable column in the order of reading is the error, and only a record that was built
draws its jitter.
-/

namespace Downloads

/-- The component that is told about the completion of a download. -/
structure NotificationTarget where
  package : String
  class? : Option String
  extras : Option String
  deriving Repr, DecidableEq

def NotificationTarget.toJson (t : NotificationTarget) : Json :=
  .object [("package", .text t.package), ("class", .ofText? t.class?),
    ("extras", .ofText? t.extras)]

/-- What is known of a download. -/
structure Record where
  id : Int
  sourceUri : String
  destination : Destination
  control : Control
  status : Status
  visibility : Visibility
  /-- Failures since the last success. -/
  numFailedAttempts : Nat
  /-- The wait that a server asked for at the last failure, zero if it did not. -/
  retryAfterSeconds : Nat
  redirectCount : Nat
  lastModificationTimeMillis : Int
  /-- Negative when unknown. -/
  totalBytes : Int
  currentBytes : Int
  mimeType : Option String
  displayTitle : Option String
  description : Option String
  notificationTarget : Option NotificationTarget
  etag : Option String
  cookies : Option String
  userAgent : Option String
  referer : Option String
  mediaScanned : Bool
  /-- Where the payload lies once it is complete. -/
  filePath : Option String
  /-- Whether listings of documents show the download. -/
  visibleInUi : Bool
  jitterFuzz : Nat
  requestHeaders : Dict String
  deriving Repr, DecidableEq

def cookieHeader : String := "Cookie"

def refererHeader : String := "Referer"

/-- The header rows, of which later ones replace earlier ones, under the headers that the
download has of its own. -/
def mergeHeaders (rows : List (String × String)) (cookies referer : Option String) :
    Dict String :=
  let d := Dict.ofList rows
  let d := match cookies with
    | some v => d.insert cookieHeader v
    | none => d
  match referer with
  | some v => d.insert refererHeader v
  | none => d

namespace Record

/-- A download that nothing has touched yet. -/
def new (id : Int) (sourceUri : String) : Record where
  id
  sourceUri
  destination := .external
  control := .run
  status := .notStarted
  visibility := .visible
  numFailedAttempts := 0
  retryAfterSeconds := 0
  redirectCount := 0
  lastModificationTimeMillis := 0
  totalBytes := -1
  currentBytes := -1
  mimeType := none
  displayTitle := none
  description := none
  notificationTarget := none
  etag := none
  cookies := none
  userAgent := none
  referer := none
  mediaScanned := false
  filePath := none
  visibleInUi := true
  jitterFuzz := 0
  requestHeaders := Dict.empty

/-- The largest count of failures, which has 32 bits. -/
def maxFailures : Int := 4294967295

/-- A count of failures is neither negative nor too large. -/
def readFailures (f : Fields) : Except RecordError Nat := do
  let n ← f.integer .numFailed
  if 0 ≤ n ∧ n ≤ maxFailures then return n.toNat
  throw (.invalidField .numFailed (.outOfRange n))

/-- The component to notify. It is there when its package is. -/
def readTarget (f : Fields) : Except RecordError (Option NotificationTarget) := do
  let package ← f.text? .notificationPackage
  let class? ← f.text? .notificationClass
  let extras ← f.text? .notificationExtras
  return package.map fun p => ⟨p, class?, extras⟩

/-- The path of the payload. Snapshots without the column have none. -/
def readFilePath (f : Fields) : Except RecordError (Option String) :=
  if f.contains Column.filePath.name then f.text? .filePath else .ok none

/-- Whether listings show the download. Snapshots without the column are shown. -/
def readVisibleInUi (f : Fields) : Except RecordError Bool :=
  if f.contains Column.visibleInUi.name then (f.integer .visibleInUi).map fun n => n != 0
  else .ok true

/-- The record of a snapshot, with no jitter. -/
def ofSnapshot (s : Snapshot) : Except RecordError Record := do
  let f := s.row
  let id ← f.integer .id
  let sourceUri ← f.text .uri
  let destination ← f.coded .destination Destination.ofCode?
  let control ← f.coded .control Control.ofCode?
  let status ← f.coded .status Status.ofCode?
  let visibility ← f.coded .visibility Visibility.ofCode?
  let numFailedAttempts ← readFailures f
  let packed ← f.integer .retryRedirect
  let lastModificationTimeMillis ← f.integer .lastModifiedMs
  let totalBytes ← f.integer .totalBytes
  let currentBytes ← f.integer .currentBytes
  let mimeType ← f.text? .mimeType
  let displayTitle ← f.text? .title
  let description ← f.text? .description
  let notificationTarget ← readTarget f
  let etag ← f.text? .etag
  let cookies ← f.text? .cookies
  let userAgent ← f.text? .userAgent
  let referer ← f.text? .referer
  let mediaScanned ← f.integer .mediaScanned
  let filePath ← readFilePath f
  let visibleInUi ← readVisibleInUi f
  return {
    id, sourceUri, destination, control, status, visibility, numFailedAttempts
    retryAfterSeconds := (PackedRetry.unpack packed).1
    redirectCount := (PackedRetry.unpack packed).2
    lastModificationTimeMillis, totalBytes, currentBytes, mimeType, displayTitle, description
    notificationTarget, etag, cookies, userAgent, referer
    mediaScanned := mediaScanned != 0
    filePath, visibleInUi
    jitterFuzz := 0
    requestHeaders := mergeHeaders s.headers cookies referer }

/-- The record of a snapshot and the random words that are left. -/
def build (s : Snapshot) (words : RandomWords) : Except RecordError Record × RandomWords :=
  match ofSnapshot s with
  | .error e => (.error e, words)
  | .ok r =>
    let (jitterFuzz, words) := words.drawJitter
    (.ok { r with jitterFuzz }, words)

/-- The size of the payload, if it is known. -/
def knownTotalBytes (r : Record) : Option Nat :=
  if 0 ≤ r.totalBytes then some r.totalBytes.toNat else none

/-- The wait and the redirects as they are stored. -/
def packedRetryField (r : Record) : Int := PackedRetry.pack r.retryAfterSeconds r.redirectCount

def toJson (r : Record) : Json :=
  .object [
    ("id", .int r.id), ("source_uri", .text r.sourceUri),
    ("destination", .text r.destination.name), ("control", .text r.control.name),
    ("status", r.status.toJson), ("visibility", .text r.visibility.name),
    ("num_failed_attempts", .int r.numFailedAttempts),
    ("retry_after_seconds", .int r.retryAfterSeconds), ("redirect_count", .int r.redirectCount),
    ("last_modification_time_millis", .int r.lastModificationTimeMillis),
    ("total_bytes", .int r.totalBytes), ("current_bytes", .int r.currentBytes),
    ("mime_type", .ofText? r.mimeType), ("display_title", .ofText? r.displayTitle),
    ("description", .ofText? r.description),
    ("notification_target", (r.notificationTarget.map NotificationTarget.toJson).getD .null),
    ("etag", .ofText? r.etag), ("cookies", .ofText? r.cookies),
    ("user_agent", .ofText? r.userAgent), ("referer", .ofText? r.referer),
    ("media_scanned", .bool r.mediaScanned),
    ("file_path", .ofText? r.filePath), ("visible_in_ui", .bool r.visibleInUi),
    ("jitter_fuzz", .int r.jitterFuzz),
    ("request_headers", .object (r.requestHeaders.entries.map fun (k, v) => (k, .text v)))]

def display (r : Record) : String :=
  "DownloadRecord \x7b id: " ++ Text.decimal r.id ++ ", uri: " ++ r.sourceUri ++ ", status: "
    ++ r.status.display ++ ", control: " ++ r.control.title ++ " \x7d"

end Record

end Downloads
