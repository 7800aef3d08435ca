import Downloads.Record.Basic
import Downloads.Store.Access

/-!
# Payloads

Files below one directory, and the payloads of completed downloads among them. Only a download
that is complete now has a payload, at the path that it was completed with.
-/

namespace Downloads

/-- Why a path leads to no file. -/
inductive FileFault where
  | missing
  /-- A part of the path that is not the last is a file. -/
  | notADirectory
  | isADirectory
  /-- A part of the path is too long. -/
  | nameTooLong
  /-- The path holds a null character. -/
  | nullInPath
  /-- The system refuses access. -/
  | denied
  deriving Repr, DecidableEq

def FileFault.message : FileFault → String
  | .missing => "No such file or directory (os error 2)"
  | .notADirectory => "Not a directory (os error 20)"
  | .isADirectory => "Is a directory (os error 21)"
  | .nameTooLong => "File name too long (os error 36)"
  | .nullInPath => "file name contained an unexpected NUL byte"
  | .denied => "Permission denied (os error 13)"

/-- Files by the parts of their paths. A directory is there as long as a file was written below
it. -/
structure Files where
  files : List (List String × List UInt8)
  directories : List (List String)
  deriving Repr, DecidableEq

inductive FileNode where
  | file (content : List UInt8)
  | directory
  deriving Repr, DecidableEq

namespace Files

def empty : Files := ⟨[], []⟩

/-- What lies at a place. -/
def node? (fs : Files) (place : List String) : Option FileNode :=
  if place = [] ∨ place ∈ fs.directories then some .directory
  else (fs.files.lookup place).map .file

/-- Follows the parts of a path from a place. A dot stays, two dots go up, and any other part
goes down. -/
def walk (fs : Files) (place : List String) : List String → Except FileFault (List String)
  | [] => .ok place
  | part :: parts =>
    match fs.node? place with
    | none => .error .missing
    | some (.file _) => .error .notADirectory
    | some .directory =>
      if part = "" ∨ part = "." then fs.walk place parts
      else if part = ".." then fs.walk place.dropLast parts
      else if 255 < part.utf8ByteSize then .error .nameTooLong
      else fs.walk (place ++ [part]) parts

def parts (path : String) : List String :=
  (Text.splitAt (· == '/') path.toList).map String.ofList

/-- What a path leads to. Absolute paths lead out of the directory, to nothing. -/
def find (fs : Files) (path : String) : Except FileFault FileNode :=
  if path.toList.contains '\x00' then .error .nullInPath
  else if path = "" ∨ path.startsWith "/" then .error .missing
  else if 4096 ≤ path.utf8ByteSize then .error .nameTooLong
  else
    match fs.walk [] (parts path) with
    | .error e => .error e
    | .ok place =>
      match fs.node? place with
      | none => .error .missing
      | some n => .ok n

def readFile (fs : Files) (path : String) : Except FileFault (List UInt8) :=
  match fs.find path with
  | .error e => .error e
  | .ok .directory => .error .isADirectory
  | .ok (.file content) => .ok content

/-- The place that a path names, dots resolved. -/
def resolve (path : String) : List String :=
  (parts path).foldl (fun place part =>
    if part = "" ∨ part = "." then place
    else if part = ".." then place.dropLast
    else place ++ [part]) []

/-- The files with one more or one replaced, and the directories above it. -/
def write (fs : Files) (path : String) (content : List UInt8) : Files :=
  let place := resolve path
  let above := (List.range place.length).map fun n => place.take n
  { files := fs.files.filter (fun f => f.1 != place) ++ [(place, content)]
    directories := fs.directories ++ above.filter fun d => d != [] && !fs.directories.contains d }

/-- The files without one, and whether it was there. -/
def remove (fs : Files) (path : String) : Bool × Files :=
  match fs.readFile path with
  | .error _ => (false, fs)
  | .ok _ => (true, { fs with files := fs.files.filter fun f => f.1 != resolve path })

end Files

/-- Why a payload cannot be opened or read. -/
inductive PayloadError where
  /-- The download has no payload. -/
  | notFound (id : Int)
  | file (path : String) (fault : FileFault)
  | store (error : StoreError)
  deriving Repr, DecidableEq

def PayloadError.message : PayloadError → String
  | .notFound id => "no completed payload for download " ++ Text.decimal id
  | .file path fault => "IO error reading " ++ path ++ ": " ++ fault.message
  | .store e => e.message

/-- A payload that was opened. What it opened may be a directory, which cannot be read. -/
structure Payload where
  path : String
  node : FileNode
  deriving Repr, DecidableEq

namespace Payload

def read (p : Payload) : Except PayloadError (List UInt8) :=
  match p.node with
  | .file content => .ok content
  | .directory => .error (.file p.path .isADirectory)

def path? (r : Record) : Option String := if r.status = .success then r.filePath else none

/-- Where the payload of a download lies. -/
def locate {σ : Type} [RecordStore σ] (store : σ) (id : Int) (words : RandomWords) :
    Except PayloadError String × RandomWords :=
  match RecordStore.snapshot? store id with
  | .error e => (.error (.store e), words)
  | .ok none => (.error (.notFound id), words)
  | .ok (some x) =>
    match Record.build x words with
    | (.error _, words) => (.error (.notFound id), words)
    | (.ok r, words) =>
      match path? r with
      | none => (.error (.notFound id), words)
      | some path => (.ok path, words)

/-- The payload of a download, once its path was looked up. -/
def ofLookup (id : Int) (path : String) : Except FileFault FileNode → Except PayloadError Payload
  | .error .missing => .error (.notFound id)
  | .error fault => .error (.file path fault)
  | .ok node => .ok ⟨path, node⟩

/-- Opens the payload of a download. -/
def openFor {σ : Type} [RecordStore σ] (store : σ) (files : Files) (id : Int)
    (words : RandomWords) : Except PayloadError Payload × RandomWords :=
  let (path, words) := locate store id words
  (path.bind fun path => ofLookup id path (files.find path), words)

end Payload

end Downloads
