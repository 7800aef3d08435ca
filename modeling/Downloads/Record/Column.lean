/-!
# Columns

The columns of a stored download, in the order of the schema. Each holds integers or text.
-/

namespace Downloads

inductive Column where
  | id
  | uri
  | destination
  | control
  | status
  | visibility
  | numFailed
  | retryRedirect
  | lastModifiedMs
  | totalBytes
  | currentBytes
  | mimeType
  | title
  | description
  | notificationPackage
  | notificationClass
  | notificationExtras
  | etag
  | cookies
  | userAgent
  | referer
  | mediaScanned
  | filePath
  | visibleInUi
  | completionNotified
  deriving Repr, DecidableEq

namespace Column

/-- All columns, in the order of the schema. -/
def all : List Column :=
  [.id, .uri, .destination, .control, .status, .visibility, .numFailed, .retryRedirect,
    .lastModifiedMs, .totalBytes, .currentBytes, .mimeType, .title, .description,
    .notificationPackage, .notificationClass, .notificationExtras, .etag, .cookies, .userAgent,
    .referer, .mediaScanned, .filePath, .visibleInUi, .completionNotified]

def name : Column → String
  | .id => "id"
  | .uri => "uri"
  | .destination => "destination"
  | .control => "control"
  | .status => "status"
  | .visibility => "visibility"
  | .numFailed => "num_failed"
  | .retryRedirect => "retry_redirect"
  | .lastModifiedMs => "last_modified_ms"
  | .totalBytes => "total_bytes"
  | .currentBytes => "current_bytes"
  | .mimeType => "mime_type"
  | .title => "title"
  | .description => "description"
  | .notificationPackage => "notification_package"
  | .notificationClass => "notification_class"
  | .notificationExtras => "notification_extras"
  | .etag => "etag"
  | .cookies => "cookies"
  | .userAgent => "user_agent"
  | .referer => "referer"
  | .mediaScanned => "media_scanned"
  | .filePath => "file_path"
  | .visibleInUi => "visible_in_ui"
  | .completionNotified => "completion_notified"

/-- The columns that hold integers. The others hold text. -/
def integers : List Column :=
  [.id, .destination, .control, .status, .visibility, .numFailed, .retryRedirect,
    .lastModifiedMs, .totalBytes, .currentBytes, .mediaScanned, .visibleInUi,
    .completionNotified]

def ofName? (s : String) : Option Column := all.find? fun c => c.name == s

/-- The place of the column in the schema, from zero. -/
def index (c : Column) : Nat := all.idxOf c

theorem mem_all (c : Column) : c ∈ all := by cases c <;> decide

theorem ofName?_name (c : Column) : ofName? c.name = some c := by cases c <;> decide

theorem name_injective {c d : Column} (h : c.name = d.name) : c = d := by
  simpa [ofName?_name] using congrArg ofName? h

end Column

end Downloads
