import Downloads.Command.Run

/-!
# Workspaces

A host that is a value: a directory with files and stores, and a clock that stands still. Runs of
the program turn one workspace into the next.
-/

namespace Downloads

/-- A directory in which the program runs. -/
structure Workspace where
  files : Files
  /-- The stores by the places of their files. -/
  stores : List (List String × Store) := []
  settingsPath : Option String
  nanos : Int
  words : RandomWords

namespace Workspace

/-- Whether a file could be made at a path. -/
def canMake (w : Workspace) (path : String) : Bool :=
  match Files.resolve path with
  | [] => false
  | _ =>
    match w.files.walk [] (Files.parts path) with
    | .error _ => false
    | .ok place => (Files.parts path).getLast? != some "" && !path.startsWith "/"
        && w.files.node? place.dropLast == some .directory

/-- The workspace with a store in the file at a path. -/
def keep (w : Workspace) (path : String) (store : Store) : Workspace :=
  if Host.isTransient path then w
  else
    let place := Files.resolve path
    { w with stores := (w.stores.filter fun s => s.1 != place) ++ [(place, store)] }

/-- The workspace in which a new store was made. -/
def make (w : Workspace) (path : String) : Workspace :=
  { w with files := w.files.write path [] }.keep path Store.empty

/-- Opens the store at a path. A file without a store has to be empty, and gets one. -/
def openStore (w : Workspace) (path : String) : Except ConnectionError Store × Workspace :=
  if Host.isTransient path then (.ok Store.empty, w)
  else match w.files.find path with
  | .ok .directory => (.error (.refused .cannotOpen), w)
  | .ok (.file content) =>
    match w.stores.lookup (Files.resolve path) with
    | some s => (.ok s, w)
    | none =>
      if content.isEmpty then (.ok Store.empty, w.make path)
      else (.error (.refused .notADatabase), w)
  | .error .missing =>
    if w.canMake path then (.ok Store.empty, w.make path)
    else (.error (.refused .cannotOpen), w)
  | .error _ => (.error (.refused .cannotOpen), w)

instance : Host (StateM Workspace) where
  settingsPath := do return (← get).settingsPath
  look path := do return (← get).files.find path
  openStore path _ := modifyGet fun w => w.openStore path
  keepStore path store := modify fun w => w.keep path store
  nanos := do return (← get).nanos
  words := do return (← get).words

end Workspace

end Downloads
