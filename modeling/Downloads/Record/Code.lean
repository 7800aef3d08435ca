import Downloads.Json

/-!
# Codes

The closed enumerations of a download, each with the integer that is stored for it and the name
by which JSON knows it.
-/

namespace Downloads

/-- Where the payload of a download goes. -/
inductive Destination where
  /-- Storage that other programs see. -/
  | external
  /-- The private cache. -/
  | cachePartition
  /-- The private cache, where storage pressure may purge it. -/
  | cachePartitionPurgeable
  /-- The private cache, but not over a roaming network. -/
  | cacheNoRoaming
  /-- A location that the caller gave. -/
  | fileUri
  deriving Repr, DecidableEq

namespace Destination

def all : List Destination :=
  [.external, .cachePartition, .cachePartitionPurgeable, .cacheNoRoaming, .fileUri]

def code : Destination → Int
  | .external => 0
  | .cachePartition => 1
  | .cachePartitionPurgeable => 2
  | .cacheNoRoaming => 3
  | .fileUri => 4

def name : Destination → String
  | .external => "external"
  | .cachePartition => "cache_partition"
  | .cachePartitionPurgeable => "cache_partition_purgeable"
  | .cacheNoRoaming => "cache_no_roaming"
  | .fileUri => "file_uri"

def ofCode? (n : Int) : Option Destination := all.find? fun d => d.code == n

def ofName? (s : String) : Option Destination := all.find? fun d => d.name == s

def ofJson? (v : Json) : Option Destination := v.name?.bind ofName?

theorem ofCode?_code (d : Destination) : ofCode? d.code = some d := by cases d <;> rfl

end Destination

/-- What the caller wants of a download. -/
inductive Control where
  | run
  | paused
  deriving Repr, DecidableEq

namespace Control

def all : List Control := [.run, .paused]

def code : Control → Int
  | .run => 0
  | .paused => 1

def name : Control → String
  | .run => "run"
  | .paused => "paused"

def title : Control → String
  | .run => "Run"
  | .paused => "Paused"

def ofCode? (n : Int) : Option Control := all.find? fun c => c.code == n

def ofName? (s : String) : Option Control := all.find? fun c => c.name == s

def ofJson? (v : Json) : Option Control := v.name?.bind ofName?

theorem ofCode?_code (c : Control) : ofCode? c.code = some c := by cases c <;> rfl

end Control

/-- When a notification is shown for a download. -/
inductive Visibility where
  /-- While it runs. -/
  | visible
  /-- While it runs and once it has completed. -/
  | visibleNotifyCompleted
  /-- Never. -/
  | hidden
  deriving Repr, DecidableEq

namespace Visibility

def all : List Visibility := [.visible, .visibleNotifyCompleted, .hidden]

def code : Visibility → Int
  | .visible => 0
  | .visibleNotifyCompleted => 1
  | .hidden => 2

def name : Visibility → String
  | .visible => "visible"
  | .visibleNotifyCompleted => "visible_notify_completed"
  | .hidden => "hidden"

def ofCode? (n : Int) : Option Visibility := all.find? fun v => v.code == n

def ofName? (s : String) : Option Visibility := all.find? fun v => v.name == s

def ofJson? (v : Json) : Option Visibility := v.name?.bind ofName?

theorem ofCode?_code (v : Visibility) : ofCode? v.code = some v := by cases v <;> rfl

end Visibility

/-- How far the transfer of a download has come. -/
inductive Status where
  /-- Nothing has touched the download yet. -/
  | notStarted
  /-- Registered. -/
  | pending
  /-- An attempt is under way. -/
  | running
  /-- Stopped on the way, until the network returns or a deadline passes. -/
  | runningPaused
  /-- The payload is complete. -/
  | success
  /-- Given up, for the reason that the code tells. -/
  | failed (code : UInt16)
  deriving Repr, DecidableEq

namespace Status

def code : Status → Int
  | .notStarted => 0
  | .pending => 190
  | .running => 192
  | .runningPaused => 193
  | .success => 200
  | .failed c => c.toNat

/-- The codes that stand for failures. -/
def isFailureCode (n : Int) : Bool := 400 ≤ n && n ≤ 599

def ofCode? (n : Int) : Option Status :=
  if n = 0 then some .notStarted
  else if n = 190 then some .pending
  else if n = 192 then some .running
  else if n = 193 then some .runningPaused
  else if n = 200 then some .success
  else if isFailureCode n then some (.failed (UInt16.ofNat n.toNat))
  else none

/-- Success and failure are final. -/
def isCompleted : Status → Bool
  | .success | .failed _ => true
  | .notStarted | .pending | .running | .runningPaused => false

def isError : Status → Bool
  | .failed _ => true
  | _ => false

def name : Status → String
  | .notStarted => "not_started"
  | .pending => "pending"
  | .running => "running"
  | .runningPaused => "running_paused"
  | .success => "success"
  | .failed _ => "failed"

/-- The text for people: a failure shows its code. -/
def display : Status → String
  | .failed c => "failed(" ++ Text.decimal c.toNat ++ ")"
  | s => s.name

/-- The statuses without a code. -/
def plain : List Status := [.notStarted, .pending, .running, .runningPaused, .success]

/-- The status without a code that has a name. -/
def ofName? (s : String) : Option Status := plain.find? fun t => t.name == s

/-- In JSON a failure is an object with its code, any other status its name. -/
def toJson : Status → Json
  | .failed c => .object [("failed", .int c.toNat)]
  | s => .text s.name

def ofJson? : Json → Option Status
  | .object [("failed", .int n)] =>
    if 0 ≤ n ∧ n ≤ 65535 then some (.failed (UInt16.ofNat n.toNat)) else none
  | v => v.name?.bind ofName?

theorem ofCode?_code {s : Status} (h : ∀ c, s = .failed c → isFailureCode c.toNat = true) :
    ofCode? s.code = some s := by
  cases s with
  | failed c =>
    have hc := h c rfl
    simp only [isFailureCode, Bool.and_eq_true, decide_eq_true_eq] at hc
    have hs : isFailureCode c.toNat = true := h c rfl
    simp only [ofCode?, code, hs]
    repeat rw [if_neg (by omega)]
    simp
  | _ => rfl

end Status

/-! ## The failures that a transfer reports itself -/

namespace Failure

def badRequest : UInt16 := 400
def notAcceptable : UInt16 := 406
def lengthRequired : UInt16 := 411
def preconditionFailed : UInt16 := 412
def canceled : UInt16 := 490
def unknownError : UInt16 := 491
def fileError : UInt16 := 492
def unhandledRedirect : UInt16 := 493
def unhandledHttpCode : UInt16 := 494
def httpDataError : UInt16 := 495
def httpException : UInt16 := 496
def tooManyRedirects : UInt16 := 497
def insufficientSpace : UInt16 := 498
def deviceNotFound : UInt16 := 499

/-- All of them, in ascending order. -/
def all : List UInt16 :=
  [badRequest, notAcceptable, lengthRequired, preconditionFailed, canceled, unknownError,
    fileError, unhandledRedirect, unhandledHttpCode, httpDataError, httpException,
    tooManyRedirects, insufficientSpace, deviceNotFound]

end Failure

end Downloads
