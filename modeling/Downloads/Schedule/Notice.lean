import Downloads.Record.Basic

/-!
# Completion notices

What is announced about a completed download, and the box that takes announcements. Delivery
never fails for the sender: a full box, or one whose reader has gone, drops what it is sent.
-/

namespace Downloads

/-- The announcement of a completed download. -/
structure Notice where
  id : Int
  status : Status
  title : Option String
  target : Option NotificationTarget
  deriving Repr, DecidableEq

/-- What is announced about a record. -/
def Notice.ofRecord (r : Record) : Notice := ⟨r.id, r.status, r.displayTitle, r.notificationTarget⟩

def Notice.toJson (n : Notice) : Json :=
  .object [("id", .int n.id), ("status", n.status.toJson), ("title", .ofText? n.title),
    ("target", (n.target.map NotificationTarget.toJson).getD .null)]

/-- A box of notices that were not read yet. -/
structure Mailbox where
  /-- The number of notices that fit. -/
  capacity : Nat
  waiting : List Notice := []
  /-- The reader is still there. -/
  connected : Bool := true
  deriving Repr, DecidableEq

namespace Mailbox

/-- An empty box that holds at least one notice. -/
def ofCapacity (n : Nat) : Mailbox := { capacity := max n 1 }

/-- The box after a notice was sent to it. -/
def post (m : Mailbox) (n : Notice) : Mailbox :=
  if m.connected ∧ m.waiting.length < m.capacity then { m with waiting := m.waiting ++ [n] } else m

/-- The box after its reader took everything. -/
def drain (m : Mailbox) : List Notice × Mailbox := (m.waiting, { m with waiting := [] })

def hangUp (m : Mailbox) : Mailbox := { m with waiting := [], connected := false }

end Mailbox

/-- Who is told about completions. -/
inductive Notifier where
  /-- The log, which keeps nothing to read. -/
  | log
  | box (m : Mailbox)
  deriving Repr, DecidableEq

namespace Notifier

/-- The notifier after a notice was sent to it. -/
def notify : Notifier → Notice → Notifier
  | .log, _ => .log
  | .box m, n => .box (m.post n)

/-- The notices to read, and the notifier without them. -/
def drain : Notifier → List Notice × Notifier
  | .log => ([], .log)
  | .box m => ((m.drain).1, .box (m.drain).2)

def hangUp : Notifier → Notifier
  | .log => .log
  | .box m => .box m.hangUp

end Notifier

end Downloads
