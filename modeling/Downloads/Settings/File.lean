import Downloads.Payload
import Downloads.Settings

/-!
# Settings files

A settings file is text in UTF-8. What is wrong with it is told with its path, and a cause below.
-/

namespace Downloads

/-- Why a file gives no settings. -/
inductive SettingsFileFault where
  | file (fault : FileFault)
  | notText
  | content (error : SettingsError)
  deriving Repr, DecidableEq

/-- A settings file that cannot be used. -/
structure SettingsFileError where
  path : String
  fault : SettingsFileFault
  deriving Repr, DecidableEq

def SettingsFileError.causes (e : SettingsFileError) : List String :=
  match e.fault with
  | .file fault => ["Failed to read config file '" ++ e.path ++ "'", fault.message]
  | .notText =>
    ["Failed to read config file '" ++ e.path ++ "'", "stream did not contain valid UTF-8"]
  | .content error => ("Failed to parse config file '" ++ e.path ++ "'") :: error.causes

namespace Settings

def ofBytes (content : List UInt8) : Except SettingsFileFault Settings :=
  match String.fromUTF8? ⟨content.toArray⟩ with
  | none => .error .notText
  | some text => (parse text).mapError .content

def ofNode : Except FileFault FileNode → Except SettingsFileFault Settings
  | .error fault => .error (.file fault)
  | .ok .directory => .error (.file .isADirectory)
  | .ok (.file content) => ofBytes content

def ofLookup (path : String) (found : Except FileFault FileNode) :
    Except SettingsFileError Settings :=
  (ofNode found).mapError fun fault => ⟨path, fault⟩

end Settings

end Downloads
