import Downloads.Payload
import Downloads.Text.Quoted

/-!
# Document errors

What clients of the document tree are told. Some errors come from the shape of a request alone,
the others from what is stored.
-/

namespace Downloads

/-- Something that a path cannot be asked for. -/
inductive DocumentOperation where
  | insert
  | update
  | open
  | delete
  | contents
  deriving Repr, DecidableEq

def DocumentOperation.name : DocumentOperation → String
  | .insert => "insert"
  | .update => "update"
  | .open => "open"
  | .delete => "delete"
  | .contents => "contents"

/-- What is not there. -/
inductive Absent where
  | root (id : String)
  | download (id : Int)
  | payload (id : Int)
  deriving Repr, DecidableEq

def Absent.message : Absent → String
  | .root id => "root " ++ id
  | .download id => "download " ++ Text.decimal id
  | .payload id => "payload for download " ++ Text.decimal id

/-- Why a request is refused or fails. -/
inductive DocumentError where
  | invalidDocumentId (text : String)
  | unsupportedPath (text : String)
  | unsupportedMode (text : String)
  | unsupportedOperation (operation : DocumentOperation) (path : String)
  | notFound (what : Absent)
  | store (error : StoreError)
  | payload (path : String) (fault : FileFault)
  deriving Repr, DecidableEq

namespace DocumentError

def message : DocumentError → String
  | .invalidDocumentId s => "invalid document id: " ++ Text.quoted s
  | .unsupportedPath s => "unsupported path: " ++ Text.quoted s
  | .unsupportedMode s => "unsupported open mode: " ++ Text.quoted s
  | .unsupportedOperation op path => op.name ++ " is not supported on " ++ Text.quoted path
  | .notFound what => "not found: " ++ what.message
  | .store e => e.message
  | .payload path fault => (PayloadError.file path fault).message

/-- Whether the shape of the request alone is at fault. -/
def isClientError : DocumentError → Bool
  | .invalidDocumentId _ | .unsupportedPath _ | .unsupportedMode _ | .unsupportedOperation .. =>
    true
  | .notFound _ | .store _ | .payload .. => false

/-- What a client is told of a store error. -/
def ofStore : StoreError → DocumentError
  | .notFound id => .notFound (.download id)
  | e => .store e

/-- What a client is told of a payload that cannot be opened. -/
def ofPayload : PayloadError → DocumentError
  | .notFound id => .notFound (.payload id)
  | .store e => ofStore e
  | .file path fault => .payload path fault

end DocumentError

end Downloads
