import Downloads.Schedule.Backoff
import Downloads.Schedule.Notice
import Downloads.Store.Access

/-!
# Ticks

The scheduler says which downloads to start. A tick lists all snapshots once and visits each of
them: a row that is no record is counted, a completion is announced by whoever claims it first, a
download that is ready is started or blocked by the network, and one that waits brings the next
wake-up forward. A failing claim ends the tick, and what it claimed so far stays claimed.
-/

namespace Downloads

/-- What a tick reports. -/
structure TickReport where
  /-- Ready, and the network may be used. -/
  toStart : List Int := []
  /-- Ready, but the network may not be used. -/
  blockedOnNetwork : List Int := []
  /-- The time until the first of the waiting downloads is due. -/
  nextWakeupMs : Option Int := none
  /-- Announced during this tick. -/
  notified : List Int := []
  /-- The number of rows that are no records. -/
  skipped : Nat := 0
  deriving Repr, DecidableEq

def TickReport.toJson (r : TickReport) : Json :=
  .object [
    ("to_start", .list (r.toStart.map .int)),
    ("blocked_on_network", .list (r.blockedOnNetwork.map .int)),
    ("next_wakeup_ms", .ofInt? r.nextWakeupMs),
    ("notified", .list (r.notified.map .int)),
    ("skipped", .int r.skipped)]

/-- Why one download cannot be judged. -/
inductive ScheduleError where
  | store (error : StoreError)
  | malformed (id : Int) (error : RecordError)
  deriving Repr, DecidableEq

def ScheduleError.message : ScheduleError → String
  | .store e => e.message
  | .malformed id e => "download " ++ Text.decimal id ++ " is malformed: " ++ e.message

/-- How downloads are judged. -/
structure Scheduler where
  backoff : Backoff
  connectivity : Connectivity

/-- What is to be done about one record. -/
inductive Verdict where
  /-- Announce its completion. -/
  | announce
  | start
  /-- It is ready, but the network may not be used. -/
  | blocked
  /-- It is due in so many milliseconds. -/
  | wait (delay : Int)
  | nothing
  deriving Repr, DecidableEq

namespace Scheduler

/-- Whether the network may be used for a download. -/
def networkAllows (s : Scheduler) (r : Record) : Bool := s.connectivity.allows r.destination

/-- What is to be done about a record. One that is due this very moment is ready a millisecond
later. -/
def judge (s : Scheduler) (now : Int) (r : Record) : Verdict :=
  if r.hasCompletionNotification then .announce
  else if s.backoff.isReadyToStart r now then
    if s.networkAllows r then .start else .blocked
  else
    match r.control, s.backoff.nextActionDelay r now with
    | .run, some delay => .wait (max delay 1)
    | _, _ => .nothing

end Scheduler

namespace TickReport

/-- The report with an earlier wake-up, if the delay is shorter. -/
def wakeIn (t : TickReport) (delay : Int) : TickReport :=
  { t with nextWakeupMs := some (match t.nextWakeupMs with
    | none => delay
    | some current => min current delay) }

end TickReport

/-- A tick under way. -/
structure Scan (σ : Type) where
  store : σ
  words : RandomWords
  notifier : Notifier
  report : TickReport

namespace Scan

variable {σ : Type} [RecordStore σ]

/-- Claims the completion of a record, and announces it if it was not claimed before. -/
def announce (t : Scan σ) (r : Record) : Except StoreError (Scan σ) :=
  match RecordStore.claimCompletionNotice t.store r.id with
  | .error e => .error e
  | .ok (false, store) => .ok { t with store }
  | .ok (true, store) =>
    .ok { t with
      store
      notifier := t.notifier.notify (Notice.ofRecord r)
      report := { t.report with notified := t.report.notified ++ [r.id] } }

/-- Acts on a verdict. -/
def act (t : Scan σ) (r : Record) : Verdict → Except StoreError (Scan σ)
  | .announce => t.announce r
  | .start => .ok { t with report := { t.report with toStart := t.report.toStart ++ [r.id] } }
  | .blocked =>
    .ok { t with report := { t.report with
      blockedOnNetwork := t.report.blockedOnNetwork ++ [r.id] } }
  | .wait delay => .ok { t with report := t.report.wakeIn delay }
  | .nothing => .ok t

/-- Visits one snapshot. On an error the scan is as it was, but for the random words. -/
def visit (s : Scheduler) (now : Int) (t : Scan σ) (x : Snapshot) : Scan σ × Option StoreError :=
  match Record.build x t.words with
  | (.error _, words) =>
    ({ t with words, report := { t.report with skipped := t.report.skipped + 1 } }, none)
  | (.ok r, words) =>
    let t := { t with words }
    match t.act r (s.judge now r) with
    | .error e => (t, some e)
    | .ok t => (t, none)

/-- Visits snapshots until one fails. -/
def visitAll (s : Scheduler) (now : Int) (t : Scan σ) :
    List Snapshot → Scan σ × Option StoreError
  | [] => (t, none)
  | x :: xs =>
    match t.visit s now x with
    | (t, some e) => (t, some e)
    | (t, none) => t.visitAll s now xs

end Scan

namespace Scheduler

variable {σ : Type} [RecordStore σ]

/-- Looks at every download once. Gives the report or the error, and the store, the random words
and the notifier after it. -/
def tick (s : Scheduler) (now : Int) (store : σ) (words : RandomWords) (notifier : Notifier) :
    Except StoreError TickReport × Scan σ :=
  let t : Scan σ := { store, words, notifier, report := {} }
  match RecordStore.snapshots store with
  | .error e => (.error e, t)
  | .ok listed =>
    match t.visitAll s now listed with
    | (t, some e) => (.error e, t)
    | (t, none) => (.ok t.report, t)

/-- The record of one download, which has to exist. -/
def load (store : σ) (id : Int) (words : RandomWords) :
    Except ScheduleError Record × RandomWords :=
  match RecordStore.snapshot? store id with
  | .error e => (.error (.store e), words)
  | .ok none => (.error (.store (.notFound id)), words)
  | .ok (some x) =>
    match Record.build x words with
    | (.error e, words) => (.error (.malformed id e), words)
    | (.ok r, words) => (.ok r, words)

/-- Whether a download that nobody works on should start now. -/
def shouldStart (s : Scheduler) (store : σ) (id now : Int) (words : RandomWords) :
    Except ScheduleError Bool × RandomWords :=
  let (r, words) := load store id words
  (r.map fun r => s.backoff.isReadyToStart r now && s.networkAllows r, words)

/-- Whether a download that somebody may work on should start again now. -/
def shouldRestart (s : Scheduler) (store : σ) (id now : Int) (words : RandomWords) :
    Except ScheduleError Bool × RandomWords :=
  let (r, words) := load store id words
  (r.map fun r => s.backoff.isReadyToRestart r now && s.networkAllows r, words)

end Scheduler

end Downloads
