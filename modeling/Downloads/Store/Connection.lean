import Downloads.Store.Access
import Downloads.Store.Foreign

/-!
# Connections

A store behind a connection that can be closed, and whose write lock another connection can hold.
Arguments are checked before the connection is used. Under a foreign lock reads go on, and every
write is refused once it comes to writing.
-/

namespace Downloads

/-- How a store in a file is reached. -/
structure ConnectionOptions where
  /-- The number of connections that are kept open. -/
  maxConnections : Nat := 5
  /-- The milliseconds that a write waits for somebody else. -/
  busyTimeoutMs : Nat := 5000
  deriving Repr, DecidableEq

/-- A store as it is reached through a connection. -/
structure Connection where
  store : Store
  /-- The store lies in a file and keeps a log of writes beside it. -/
  inFile : Bool
  closed : Bool := false
  /-- Another connection holds the write lock. -/
  locked : Bool := false
  deriving Repr, DecidableEq

/-- Why a store cannot be reached at all. -/
inductive ConnectionError where
  | refused (r : Refusal)
  | closed
  deriving Repr, DecidableEq

def ConnectionError.causes : ConnectionError → List String
  | .refused r => ["failed to connect to database: " ++ r.message, r.message, r.detail]
  | .closed =>
    ["failed to connect to database: " ++ DatabaseError.closed.message,
      DatabaseError.closed.message]

def ConnectionError.message (e : ConnectionError) : String := e.causes.headD ""

namespace Connection

def inMemory : Connection := ⟨Store.empty, false, false, false⟩

def toFile (s : Store) : Connection := ⟨s, true, false, false⟩

def query {α : Type} (c : Connection) (f : Store → Except StoreError α) : Except StoreError α :=
  if c.closed then .error (.database .closed) else f c.store

/-- Changes the store. What fails before anything is written fails under a lock as well. -/
def change {α : Type} (c : Connection) (readsFirst : Bool)
    (f : Store → Except StoreError (α × Store)) : Except StoreError (α × Connection) :=
  if c.closed then .error (.database .closed)
  else if c.locked then
    match readsFirst, f c.store with
    | true, .error e => .error e
    | _, _ => .error (.database (.refused .locked))
  else (f c.store).map fun (a, store) => (a, { c with store })

def perform [Url.HostNames] (c : Connection) (op : Operation) :
    Except StoreError (Outcome × Connection) := do
  op.check
  c.change op.readsFirst fun s => s.apply op

/-- A statement that names an unknown column fails before it needs the lock. -/
def namesKnownColumns (names : List String) : Bool :=
  names.all fun n => (Column.ofName? n).isSome

def foreignInsert (c : Connection) (values : List (String × FieldValue)) :
    Except StoreError (Int × Connection) :=
  c.change (!namesKnownColumns (values.map (·.1))) fun s => s.foreignInsert values

def foreignSet (c : Connection) (id : Int) (name : String) (value : FieldValue) :
    Except StoreError (Nat × Connection) :=
  c.change (!namesKnownColumns [name]) fun s => s.foreignSet id name value

/-- Whether writes go to a log first. -/
def isLogged (c : Connection) : Except ConnectionError Bool :=
  if c.closed then .error .closed else .ok c.inFile

instance [Url.HostNames] : RecordStore Connection where
  snapshot? c id := c.query fun s => s.snapshot? id
  snapshots c := c.query Store.snapshots
  visibleSnapshots c := c.query Store.visibleSnapshots
  delete c id := (c.perform (.delete id)).map (·.2)
  claimCompletionNotice c id :=
    c.change false fun s => .ok (s.claimCompletionNotice id)

end Connection

end Downloads
