import Downloads.Store.Row
import Downloads.Url.Basic

/-!
# The store

The downloads and their request headers. Every operation either succeeds as a whole or fails and
leaves the store as it was. Ids grow and are never used again.
-/

namespace Downloads

structure HeaderRow where
  download : Int
  name : String
  value : String
  deriving Repr, DecidableEq

/-- Stored downloads. -/
structure Store where
  /-- The rows, by ascending id. -/
  rows : List Row
  /-- The request headers, oldest first. -/
  headers : List HeaderRow
  /-- The largest id that was ever given to a new row, or zero. -/
  lastId : Int
  deriving Repr, DecidableEq

/-- What a caller says about a new download. -/
structure NewDownload where
  uri : String
  destination : Destination := .external
  control : Control := .run
  visibility : Visibility := .visible
  mimeType : Option String := none
  title : Option String := none
  description : Option String := none
  notificationTarget : Option NotificationTarget := none
  cookies : Option String := none
  userAgent : Option String := none
  referer : Option String := none
  visibleInUi : Bool := true
  /-- Further request headers, in order. -/
  headers : List (String × String) := []
  deriving Repr, DecidableEq

/-- What is known of a payload that was transferred. -/
structure CompletedPayload where
  /-- Negative when the size was never learned. -/
  totalBytes : Int
  filePath : String
  /-- Replaces the stored type if it is there. -/
  mimeType : Option String
  deriving Repr, DecidableEq

namespace NewDownload

/-- The row of a new download. -/
def row (d : NewDownload) (id now : Int) : Row where
  id
  uri := d.uri
  destination := d.destination
  control := d.control
  status := .int Status.pending.code
  visibility := d.visibility
  numFailed := .int 0
  retryRedirect := .int 0
  lastModifiedMs := .int now
  totalBytes := .int (-1)
  currentBytes := .int 0
  mimeType := d.mimeType
  title := d.title
  description := d.description
  notificationPackage := d.notificationTarget.map (·.package)
  notificationClass := d.notificationTarget.bind (·.class?)
  notificationExtras := d.notificationTarget.bind (·.extras)
  etag := none
  cookies := d.cookies
  userAgent := d.userAgent
  referer := d.referer
  mediaScanned := .int 0
  filePath := none
  visibleInUi := .int (if d.visibleInUi then 1 else 0)
  completionNotified := .int 0

/-- The uri of a new download is an absolute URL. -/
def check [Url.HostNames] (d : NewDownload) : Except StoreError Unit :=
  match Url.parse d.uri with
  | .ok _ => .ok ()
  | .error e => .error (.invalidInput (.uri e))

end NewDownload

/-! ## Changes of a row -/

namespace Row

/-- The row after its caller asked for something. -/
def withControl (r : Row) (control : Control) (now : Int) : Row :=
  { r with control, lastModifiedMs := .int now }

/-- The row with another status. -/
def withStatus (r : Row) (status : Status) (now : Int) : Row :=
  { r with status := .int status.code, lastModifiedMs := .int now }

/-- The row with another packed retry field. -/
def withRetry (r : Row) (field : Int) : Row := { r with retryRedirect := .int field }

/-- The row after one more failure that may be retried. -/
def pausedForRetry (r : Row) (field now : Int) : Row :=
  { r with
    status := .int Status.runningPaused.code
    numFailed := r.numFailed.succ
    retryRedirect := .int field
    lastModifiedMs := .int now }

/-- The row of a download that was given up. -/
def failed (r : Row) (code : UInt16) (now : Int) : Row :=
  { r with
    status := .int (Status.failed code).code
    completionNotified := .int 0
    lastModifiedMs := .int now }

/-- The row of a download whose payload is complete. -/
def succeeded (r : Row) (p : CompletedPayload) (now : Int) : Row :=
  { r with
    status := .int Status.success.code
    numFailed := .int 0
    retryRedirect := .int 0
    completionNotified := .int 0
    totalBytes := .int p.totalBytes
    currentBytes := if 0 ≤ p.totalBytes then .int p.totalBytes else r.currentBytes
    filePath := some p.filePath
    mimeType := p.mimeType.or r.mimeType
    lastModifiedMs := .int now }

/-- The row of a download of which so much is transferred. -/
def withProgress (r : Row) (current total : Int) : Row :=
  { r with currentBytes := .int current, totalBytes := .int total }

/-- The row after the announcement of its completion was taken. -/
def claimed (r : Row) : Row := { r with completionNotified := .int 1 }

end Row

namespace Store

def empty : Store := ⟨[], [], 0⟩

instance : Inhabited Store := ⟨empty⟩

/-! ## Reading -/

def find? (s : Store) (id : Int) : Option Row := s.rows.find? fun r => r.id == id

def headersOf (s : Store) (id : Int) : List (String × String) :=
  (s.headers.filter fun h => h.download == id).map fun h => (h.name, h.value)

def snapshotOf (s : Store) (r : Row) : Except StoreError Snapshot :=
  match r.fields with
  | .error e => .error (.database e)
  | .ok row => .ok ⟨row, s.headersOf r.id⟩

def snapshot? (s : Store) (id : Int) : Except StoreError (Option Snapshot) :=
  match s.find? id with
  | none => .ok none
  | some r => (s.snapshotOf r).map some

def snapshots (s : Store) : Except StoreError (List Snapshot) := s.rows.mapM s.snapshotOf

/-- The snapshots of the downloads that listings show. -/
def visibleSnapshots (s : Store) : Except StoreError (List Snapshot) :=
  (s.rows.filter fun r => r.visibleInUi != .int 0).mapM s.snapshotOf

def countByStatus (s : Store) (status : Status) : Nat :=
  s.rows.countP fun r => r.status == .int status.code

def countHeaders (s : Store) (id : Int) : Nat := (s.headersOf id).length

/-! ## Writing -/

/-- The id for a new row: one more than the largest so far, unless none is left. -/
def nextId (s : Store) : Except StoreError Int :=
  let top := s.rows.foldl (fun m r => max m r.id) s.lastId
  if top < maxInt64 then .ok (top + 1) else .error (.database (.refused .full))

/-- The rows with one more, which takes its place among the ids. -/
def placeRow (rows : List Row) (r : Row) : List Row :=
  rows.takeWhile (fun x => x.id < r.id) ++ r :: rows.dropWhile (fun x => x.id < r.id)

/-- The store with one more row. -/
def addRow (s : Store) (r : Row) : Store :=
  { s with rows := placeRow s.rows r, lastId := max s.lastId r.id }

/-- The store in which one row is changed. -/
def updateRow (s : Store) (id : Int) (change : Row → Row) : Except StoreError Store :=
  match s.find? id with
  | none => .error (.notFound id)
  | some _ => .ok { s with rows := s.rows.map fun r => if r.id = id then change r else r }

/-- Adds a download with its headers, and gives its id. -/
def insert [Url.HostNames] (s : Store) (d : NewDownload) (now : Int) :
    Except StoreError (Int × Store) := do
  d.check
  let id ← s.nextId
  let s := s.addRow (d.row id now)
  return (id, { s with headers := s.headers ++ d.headers.map fun h => ⟨id, h.1, h.2⟩ })

/-- A header has a name that is not blank. -/
def checkHeaderName (name : String) : Except StoreError Unit :=
  if Text.isBlankText name then .error (.invalidInput .emptyHeaderName) else .ok ()

/-- Adds a request header after the others. -/
def addHeader (s : Store) (id : Int) (name value : String) : Except StoreError Store := do
  checkHeaderName name
  match s.find? id with
  | none => throw (.notFound id)
  | some _ => return { s with headers := s.headers ++ [⟨id, name, value⟩] }

/-- Removes a download and its headers. -/
def delete (s : Store) (id : Int) : Except StoreError Store :=
  match s.find? id with
  | none => .error (.notFound id)
  | some _ => .ok { s with
      rows := s.rows.filter fun r => r.id != id
      headers := s.headers.filter fun h => h.download != id }

def setControl (s : Store) (id : Int) (control : Control) (now : Int) : Except StoreError Store :=
  s.updateRow id fun r => r.withControl control now

/-- Sets the status of a download. -/
def setStatus (s : Store) (id : Int) (status : Status) (now : Int) : Except StoreError Store :=
  s.updateRow id fun r => r.withStatus status now

/-- Records that an attempt started. -/
def markRunning (s : Store) (id now : Int) : Except StoreError Store :=
  s.setStatus id .running now

/-- Records that a download lost the network. That is no failure. -/
def markWaiting (s : Store) (id now : Int) : Except StoreError Store :=
  s.setStatus id .runningPaused now

/-- The wait and the redirects of a download. -/
def packedRetry (s : Store) (id : Int) : Except StoreError (Nat × Nat) :=
  match s.find? id with
  | none => .error (.notFound id)
  | some r =>
    match r.retryRedirect.readInt with
    | .error e => .error (.database e)
    | .ok n => .ok (PackedRetry.unpack n)

/-- Records a failure that may be retried, with the wait that the server asked for. The redirects
stay. -/
def markPausedForRetry (s : Store) (id : Int) (retryAfter : Option Nat) (now : Int) :
    Except StoreError Store := do
  let (_, redirects) ← s.packedRetry id
  s.updateRow id fun r => r.pausedForRetry (PackedRetry.pack (retryAfter.getD 0) redirects) now

/-- Records one more redirect, and gives their number. -/
def recordRedirect (s : Store) (id : Int) : Except StoreError (Nat × Store) := do
  let (retryAfter, redirects) ← s.packedRetry id
  let next := (redirects + 1) % (PackedRetry.maxRedirects + 1)
  let s ← s.updateRow id fun r => r.withRetry (PackedRetry.pack retryAfter next)
  return (next, s)

/-- A download fails with one of the codes for failures. -/
def checkFailureCode (code : UInt16) : Except StoreError Unit :=
  if Status.isFailureCode code.toNat then .ok () else .error (.invalidInput (.notAFailureCode code))

/-- Records that a download was given up. Its completion is to be announced. -/
def markFailed (s : Store) (id : Int) (code : UInt16) (now : Int) : Except StoreError Store := do
  checkFailureCode code
  s.updateRow id fun r => r.failed code now

/-- Records that the payload is complete, and forgets the failures and redirects. Its completion
is to be announced. -/
def markSuccess (s : Store) (id : Int) (p : CompletedPayload) (now : Int) :
    Except StoreError Store :=
  s.updateRow id fun r => r.succeeded p now

/-- Records how far the transfer is. -/
def updateProgress (s : Store) (id current total : Int) : Except StoreError Store :=
  s.updateRow id fun r => r.withProgress current total

/-- Takes the announcement of a completion. Only the first taker gets it, until the download
completes again. -/
def claimCompletionNotice (s : Store) (id : Int) : Bool × Store :=
  match s.find? id with
  | none => (false, s)
  | some r =>
    if r.completionNotified = .int 0 then
      (true, { s with rows := s.rows.map fun r => if r.id = id then r.claimed else r })
    else (false, s)

end Store

/-! ## Operations as data -/

/-- A call that may change the store. -/
inductive Operation where
  | insert (download : NewDownload) (now : Int)
  | addHeader (id : Int) (name value : String)
  | delete (id : Int)
  | setControl (id : Int) (control : Control) (now : Int)
  | markRunning (id now : Int)
  | markWaiting (id now : Int)
  | markPausedForRetry (id : Int) (retryAfter : Option Nat) (now : Int)
  | recordRedirect (id : Int)
  | markFailed (id : Int) (code : UInt16) (now : Int)
  | markSuccess (id : Int) (payload : CompletedPayload) (now : Int)
  | updateProgress (id current total : Int)
  | claimCompletionNotice (id : Int)
  deriving Repr, DecidableEq

/-- What a successful call answers. -/
inductive Outcome where
  | done
  /-- The id of a new download. -/
  | inserted (id : Int)
  /-- The number of redirects so far. -/
  | redirects (n : Nat)
  /-- Whether the announcement was taken. -/
  | claimed (first : Bool)
  deriving Repr, DecidableEq

namespace Operation

/-- The checks that need no store. -/
def check [Url.HostNames] : Operation → Except StoreError Unit
  | .insert d _ => d.check
  | .addHeader _ name _ => Store.checkHeaderName name
  | .markFailed _ code _ => Store.checkFailureCode code
  | _ => .ok ()

/-- Whether the call looks at the row before it writes. -/
def readsFirst : Operation → Bool
  | .markPausedForRetry .. | .recordRedirect _ => true
  | _ => false

end Operation

namespace Store

variable [Url.HostNames]

/-- The answer to a call and the store after it. -/
def apply (s : Store) : Operation → Except StoreError (Outcome × Store)
  | .insert d now => (s.insert d now).map fun (id, s) => (.inserted id, s)
  | .addHeader id name value => (s.addHeader id name value).map fun s => (.done, s)
  | .delete id => (s.delete id).map fun s => (.done, s)
  | .setControl id control now => (s.setControl id control now).map fun s => (.done, s)
  | .markRunning id now => (s.markRunning id now).map fun s => (.done, s)
  | .markWaiting id now => (s.markWaiting id now).map fun s => (.done, s)
  | .markPausedForRetry id retryAfter now =>
    (s.markPausedForRetry id retryAfter now).map fun s => (.done, s)
  | .recordRedirect id => (s.recordRedirect id).map fun (n, s) => (.redirects n, s)
  | .markFailed id code now => (s.markFailed id code now).map fun s => (.done, s)
  | .markSuccess id payload now => (s.markSuccess id payload now).map fun s => (.done, s)
  | .updateProgress id current total =>
    (s.updateProgress id current total).map fun s => (.done, s)
  | .claimCompletionNotice id =>
    let (first, s) := s.claimCompletionNotice id
    .ok (.claimed first, s)

/-- The store after a call, which is the store before it if the call fails. -/
def after (s : Store) (op : Operation) : Store :=
  match s.apply op with
  | .ok (_, s) => s
  | .error _ => s

/-- The store after a run of calls. -/
def run (s : Store) (ops : List Operation) : Store := ops.foldl after s

end Store

end Downloads
