import Downloads.Command.Run
import Downloads.Store.Archive
import Std.Time.DateTime.Timestamp

/-!
# The program

The host that the operating system provides, and the program on it. Stores are kept in archives.
-/

namespace Downloads.Main

/-- A path below a directory that an environment variable names. -/
def below (name rest : String) : IO (Option String) := do
  match ← IO.getEnv name with
  | none | some "" => return none
  | some directory => return some (directory ++ "/" ++ rest)

/-- Where the settings lie if the command line names no file. -/
def settingsPath : IO (Option String) := do
  match ← below "XDG_CONFIG_HOME" "download-provider/config.toml" with
  | some path => return some path
  | none => below "HOME" ".config/download-provider/config.toml"

/-- Why a file cannot be opened. -/
def faultOf : IO.Error → FileFault
  | .noFileOrDirectory .. | .noSuchThing .. => .missing
  | .inappropriateType .. => .notADirectory
  | _ => .denied

/-- What a file holds. A directory can be opened, but not read. -/
def readNode (handle : IO.FS.Handle) : IO FileNode := do
  try
    return .file (← handle.readBinToEnd).toList
  catch _ =>
    return .directory

/-- What lies at a path. -/
def look (path : String) : IO (Except FileFault FileNode) := do
  try
    return .ok (← readNode (← IO.FS.Handle.mk path .read))
  catch e =>
    return .error (faultOf e)

/-- Keeps what became of the store in a file. -/
def keepStore (path : String) (store : Store) : IO Unit := do
  if !Host.isTransient path then IO.FS.writeFile path store.archive

/-- The store in a file with some content. An empty file holds an empty store. -/
def storeOf (content : List UInt8) : Except ConnectionError Store :=
  if content.isEmpty then .ok Store.empty
  else
    match (String.fromUTF8? ⟨content.toArray⟩).bind Store.ofArchive? with
    | some store => .ok store
    | none => .error (.refused .notADatabase)

/-- Opens the store in a file. -/
def openStore (path : String) : IO (Except ConnectionError Store) := do
  if Host.isTransient path then return .ok Store.empty
  match ← look path with
  | .ok (.file content) => return storeOf content
  | .error .missing =>
    try
      keepStore path Store.empty
      return .ok Store.empty
    catch _ =>
      return .error (.refused .cannotOpen)
  | _ => return .error (.refused .cannotOpen)

/-- Some random words. -/
def words : IO RandomWords := do
  let bytes ← IO.getRandomBytes 256
  let word (n : Nat) : UInt32 :=
    (List.range 4).foldl (fun w k => w * 256 + (bytes[4 * n + k]?.getD 0).toUInt32) 0
  return { pending := (List.range 64).map word }

instance : Host IO where
  settingsPath
  look
  openStore path _ := openStore path
  keepStore
  nanos := do return (← Std.Time.Timestamp.now).toNanosecondsSinceUnixEpoch.val
  words

end Downloads.Main

/-- Runs the program, and gives its exit code. -/
def main (words : List String) : IO UInt32 := do
  let e ← (Downloads.Run.run words : IO Downloads.Ending)
  let out ← IO.getStdout
  out.write ⟨e.output.toArray⟩
  out.flush
  IO.eprint e.complaint
  return UInt32.ofNat e.exitCode
