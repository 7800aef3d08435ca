import Downloads.Command.Host
import Downloads.Command.Line
import Downloads.Command.Report
import Downloads.Documents.Tree

/-!
# Jobs

A command at work on an open store. Each command makes one call, and prints what it answers as
JSON, or the bytes of a payload as they are. A command that fails prints nothing.
-/

namespace Downloads

/-- What a command prints. -/
inductive Printed where
  | json (v : Json)
  | bytes (content : List UInt8)

/-- The bytes to print. A JSON value ends its line. -/
def Printed.content : Printed → List UInt8
  | .json v => (v.render ++ "\n").toUTF8.toList
  | .bytes content => content

/-- The size of what a path leads to. A directory takes one block. -/
def FileNode.size : FileNode → Nat
  | .file content => content.length
  | .directory => 4096

structure Job where
  scheduler : Scheduler
  tree : DocumentTree
  store : Store
  /-- The nanoseconds since the start of 1970. -/
  nanos : Int
  words : RandomWords

namespace Job

variable [Url.HostNames]

/-- What a command prints or why it fails, and the store after it. -/
abbrev Result := Except Report Printed × Store

def now (j : Job) : Int := j.nanos / 1000000

def fail (j : Job) (r : Report) : Result := (.error r, j.store)

def answer (j : Job) (v : Json) : Result := (.ok (.json v), j.store)

def about (id : Int) (members : List (String × Json)) : Json :=
  .object (("id", .int id) :: members)

def change (j : Job) (v : Json) : Except StoreError Store → Result
  | .error e => j.fail (.ofStore e)
  | .ok store => (.ok (.json v), store)

def add (j : Job) (d : NewDownload) : Result :=
  match j.store.insert d j.now with
  | .error e => j.fail (.ofStore e)
  | .ok (id, store) => (.ok (.json (about id [])), store)

def header (j : Job) (id : Int) (name value : String) : Result :=
  j.change (about id [("header", .text name)]) (j.store.addHeader id name value)

def setControl (j : Job) (id : Int) (control : Control) : Result :=
  j.change (about id [("control", .text control.name)]) (j.store.setControl id control j.now)

/-- Records the start of an attempt. -/
def start (j : Job) (id : Int) : Result :=
  j.change (about id [("status", .text Status.running.name)]) (j.store.markRunning id j.now)

/-- Records that a download was given up. -/
def giveUp (j : Job) (id : Int) (code : UInt16) : Result :=
  j.change (about id [("status", .int code.toNat)]) (j.store.markFailed id code j.now)

/-- Records a failure that may be retried. A header that says nothing is left out. -/
def retry (j : Job) (id : Int) (header : Option String) : Result :=
  let wait := header.bind fun h => RetryAfter.parse h j.nanos
  j.change (about id [("retry_after", .ofInt? (wait.map Int.ofNat))])
    (j.store.markPausedForRetry id wait j.now)

/-- Records that the payload is complete. -/
def complete (j : Job) (id : Int) (p : CompletedPayload) : Result :=
  j.change (about id [("total_bytes", .int p.totalBytes)]) (j.store.markSuccess id p j.now)

/-- Ticks once, and tells the log about completions. -/
def tick (j : Job) (now : Int) : Result :=
  let (report, after) := j.scheduler.tick now j.store j.words .log
  match report with
  | .error e => (.error (.ofStore e), after.store)
  | .ok report => (.ok (.json report.toJson), after.store)

/-- Whether a download should start now, or start again. -/
def check (j : Job) (id : Int) (restart : Bool) : Result :=
  let (ready, _) :=
    if restart then j.scheduler.shouldRestart j.store id j.now j.words
    else j.scheduler.shouldStart j.store id j.now j.words
  match ready with
  | .error e => j.fail (.ofSchedule e)
  | .ok ready => j.answer (about id [("ready", .bool ready)])

def query (j : Job) (path : String) : Result :=
  match (j.tree.query j.store path j.words).1 with
  | .error e => j.fail (.ofDocument e)
  | .ok rows => j.answer (.list (rows.map QueryRow.toJson))

/-- Deletes the download of a document. -/
def delete (j : Job) (path : String) : Result :=
  match DocumentTree.delete j.store path with
  | .error e => j.fail (.ofDocument e)
  | .ok store => (.ok (.json (.object [("deleted", .text path)])), store)

/-- Prints a payload that was opened. -/
def print (j : Job) (p : Payload) : Result :=
  match p.node with
  | .directory => j.fail ⟨FileFault.isADirectory.message, []⟩
  | .file content => (.ok (.bytes content), j.store)

variable {m : Type → Type} [Monad m] [Host m]

/-- The size of a payload: what the command line says, else the size of the file. -/
def sizeOf (path : String) : Option Int → m (Except Report Int)
  | some n => pure (.ok n)
  | none => do
    match ← Host.look path with
    | .error fault => return .error (.ofSize path fault)
    | .ok node => return .ok node.size

/-- Prints the payload of a document. -/
def cat (j : Job) (path : String) : m Result := do
  match (DocumentTree.locate j.store path OpenMode.read.text j.words).1 with
  | .error e => return j.fail (.ofDocument e)
  | .ok (id, file) =>
    match Payload.ofLookup id file (← Host.look file) with
    | .error e => return j.fail (.ofDocument (.ofPayload e))
    | .ok p => return j.print p

def run (j : Job) : Command → m Result
  | .add d => pure (j.add d)
  | .header id name value => pure (j.header id name value)
  | .pause id => pure (j.setControl id .paused)
  | .resume id => pure (j.setControl id .run)
  | .start id => pure (j.start id)
  | .fail id _ (some code) => pure (j.giveUp id code)
  | .fail id header none => pure (j.retry id header)
  | .complete id path totalBytes mimeType => do
    match ← sizeOf path totalBytes with
    | .error r => return j.fail r
    | .ok totalBytes => return j.complete id { totalBytes, filePath := path, mimeType }
  | .tick now => pure (j.tick (now.getD j.now))
  | .check id restart => pure (j.check id restart)
  | .query path => pure (j.query path)
  | .cat path => j.cat path
  | .delete path => pure (j.delete path)

end Job

end Downloads
