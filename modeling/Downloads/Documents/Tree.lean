import Downloads.Documents.Mode
import Downloads.Documents.Node
import Downloads.Documents.Path

/-!
# The document tree

One root, which is a directory, with one document for each download that listings show. Every
request reads the store anew. The tree cannot be written, but documents can be deleted from it.
-/

namespace Downloads

/-- The id of the root. -/
def rootId : String := "downloads"

/-- The document id of the directory that the root is. -/
def rootDocumentId : String := "downloads"

/-- How the tree is presented. -/
structure DocumentTree where
  rootTitle : String := "Downloads"
  labels : StatusLabels := {}
  deriving Repr, DecidableEq

inductive QueryRow where
  | root (node : RootNode)
  | document (node : DocumentNode)
  deriving Repr, DecidableEq

/-- The row in JSON, with its kind. -/
def QueryRow.toJson : QueryRow → Json
  | .root n => .object (("kind", .text "root") :: n.jsonMembers)
  | .document n => .object (("kind", .text "document") :: n.jsonMembers)

namespace DocumentTree

variable {σ : Type} [RecordStore σ] [Url.HostNames]

def root (t : DocumentTree) : RootNode := ⟨rootId, rootDocumentId, t.rootTitle⟩

/-- There is one root. -/
def checkRoot (id : String) : Except DocumentError Unit :=
  if id = rootId then .ok () else .error (.notFound (.root id))

def node? (t : DocumentTree) (x : Snapshot) (words : RandomWords) :
    Option DocumentNode × RandomWords :=
  match Record.build x words with
  | (.error _, words) => (none, words)
  | (.ok r, words) => (some (r.toNode t.labels), words)

/-- The nodes of the snapshots that are records. -/
def nodes (t : DocumentTree) : List Snapshot → RandomWords → List DocumentNode × RandomWords
  | [], words => ([], words)
  | x :: xs, words =>
    let (n, words) := t.node? x words
    let (ns, words) := t.nodes xs words
    (n.toList ++ ns, words)

def download (t : DocumentTree) (store : σ) (id : Int) (words : RandomWords) :
    Except DocumentError DocumentNode × RandomWords :=
  match RecordStore.snapshot? store id with
  | .error e => (.error (.ofStore e), words)
  | .ok none => (.error (.notFound (.download id)), words)
  | .ok (some x) =>
    match t.node? x words with
    | (none, words) => (.error (.notFound (.download id)), words)
    | (some n, words) => (.ok n, words)

/-- The node at a place that names a document. A directory has no contents. -/
def document (t : DocumentTree) (store : σ) (path : DocumentPath) (documentId : String)
    (words : RandomWords) : Except DocumentError DocumentNode × RandomWords :=
  if documentId = rootDocumentId then
    match path with
    | .contents .. => (.error (.unsupportedOperation .contents path.display), words)
    | _ => (.ok (DocumentNode.directory rootDocumentId t.rootTitle), words)
  else
    match DocumentId.parse documentId with
    | .error e => (.error e, words)
    | .ok id => t.download store id words

def listing (t : DocumentTree) (store : σ) (words : RandomWords) :
    Except DocumentError (List DocumentNode) × RandomWords :=
  match RecordStore.visibleSnapshots store with
  | .error e => (.error (.ofStore e), words)
  | .ok xs =>
    let (ns, words) := t.nodes xs words
    (.ok ns, words)

def queryAt (t : DocumentTree) (store : σ) (path : DocumentPath) (words : RandomWords) :
    Except DocumentError (List QueryRow) × RandomWords :=
  match path with
  | .roots => (.ok [.root t.root], words)
  | .root r =>
    match checkRoot r with
    | .error e => (.error e, words)
    | .ok () =>
      let (ns, words) := t.listing store words
      (ns.map fun ns => ns.map .document, words)
  | .document r d | .contents r d =>
    match checkRoot r with
    | .error e => (.error e, words)
    | .ok () =>
      let (n, words) := t.document store path d words
      (n.map fun n => [.document n], words)

def query (t : DocumentTree) (store : σ) (path : String) (words : RandomWords) :
    Except DocumentError (List QueryRow) × RandomWords :=
  match DocumentPath.parse path with
  | .error e => (.error e, words)
  | .ok path => t.queryAt store path words

def typeAt (t : DocumentTree) (store : σ) (path : DocumentPath) (words : RandomWords) :
    Except DocumentError (Option String) × RandomWords :=
  match path with
  | .roots => (.ok (some directoryMimeType), words)
  | .root r => ((checkRoot r).map fun _ => some directoryMimeType, words)
  | .document r d | .contents r d =>
    match checkRoot r with
    | .error e => (.error e, words)
    | .ok () =>
      let (n, words) := t.document store path d words
      (n.map (·.mimeType), words)

/-- The type of the node that a path leads to, none until a download is complete. -/
def getType (t : DocumentTree) (store : σ) (path : String) (words : RandomWords) :
    Except DocumentError (Option String) × RandomWords :=
  match DocumentPath.parse path with
  | .error e => (.error e, words)
  | .ok path => t.typeAt store path words

/-- The download that an operation on a place means. Directories take none. -/
def targetOf (operation : DocumentOperation) (path : DocumentPath) : Except DocumentError Int :=
  match path with
  | .roots | .root _ => .error (.unsupportedOperation operation path.display)
  | .document r d | .contents r d => do
    checkRoot r
    if d = rootDocumentId then throw (.unsupportedOperation operation path.display)
    DocumentId.parse d

/-- Checks a request to open a document, mode first, and gives its download. -/
def checkOpen (path mode : String) : Except DocumentError Int := do
  let m ← OpenMode.parse mode
  if !m.isReadOnly then throw (.unsupportedMode m.text)
  targetOf .open (← DocumentPath.parse path)

/-- Where the payload of a document lies, with the download that it belongs to. -/
def locate (store : σ) (path mode : String) (words : RandomWords) :
    Except DocumentError (Int × String) × RandomWords :=
  match checkOpen path mode with
  | .error e => (.error e, words)
  | .ok id =>
    let (p, words) := Payload.locate store id words
    ((p.map fun path => (id, path)).mapError .ofPayload, words)

/-- Opens the payload of a document. -/
def openDocument (store : σ) (files : Files) (path mode : String) (words : RandomWords) :
    Except DocumentError Payload × RandomWords :=
  let (found, words) := locate store path mode words
  (found.bind fun (id, path) =>
    (Payload.ofLookup id path (files.find path)).mapError .ofPayload, words)

/-- Deletes the download of a document. -/
def delete (store : σ) (path : String) : Except DocumentError σ := do
  let id ← targetOf .delete (← DocumentPath.parse path)
  (RecordStore.delete store id).mapError .ofStore

/-- Documents cannot be added. -/
def insert (path : String) : DocumentError := .unsupportedOperation .insert path

/-- Documents cannot be changed. -/
def update (path : String) : DocumentError := .unsupportedOperation .update path

end DocumentTree

end Downloads
