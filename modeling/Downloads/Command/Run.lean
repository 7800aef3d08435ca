import Downloads.Command.Job

/-!
# Runs

A run of the program: the command line, then the settings, then the store, then the command. What
fails first is reported, and later steps are not taken. What the command line says goes before
what the settings say.
-/

namespace Downloads

/-- How a run ends. -/
structure Ending where
  exitCode : Nat
  output : List UInt8 := []
  /-- What is said about a failure. -/
  complaint : String := ""
  deriving Repr, DecidableEq

namespace Settings

/-- The labels of downloads that are not complete. Those that are not set keep their defaults. -/
def labels (s : Settings) : StatusLabels :=
  let default : StatusLabels := {}
  { queued := s.labelQueued.getD default.queued
    running := s.labelRunning.getD default.running
    error := s.labelError.getD default.error }

def tree (s : Settings) : DocumentTree :=
  let default : DocumentTree := {}
  { rootTitle := s.rootTitle.getD default.rootTitle, labels := s.labels }

def connectionOptions (s : Settings) : ConnectionOptions :=
  let default : ConnectionOptions := {}
  { maxConnections := s.dbMaxConnections.getD default.maxConnections
    busyTimeoutMs := s.dbBusyTimeoutMs.getD default.busyTimeoutMs }

def backoff (s : Settings) : Backoff :=
  match s.retryBaseDelaySecs with
  | none => .ofBase Backoff.defaultBaseDelay
  | some n => .ofBase n

end Settings

namespace CommandLine

/-- What is known of the network. Either side can take it away, or say that it roams. -/
def connectivity (c : CommandLine) (s : Settings) : Connectivity :=
  let available := !c.offline && s.networkAvailable.getD true
  { available
    roaming := c.roaming || s.networkRoaming.getD false
    networkType := if available then s.networkType.getD .wifi else .none }

/-- The file of the store that is used when none is named. -/
def defaultStorePath : String := "downloads.db"

def storePath (c : CommandLine) (s : Settings) : String :=
  (c.db.or s.dbPath).getD defaultStorePath

def scheduler (c : CommandLine) (s : Settings) : Scheduler := ⟨s.backoff, c.connectivity s⟩

end CommandLine

namespace Run

def versionText : String := "download-provider 0.1.0\n"

def helpText : String :=
  "Usage: download-provider [OPTIONS] <COMMAND>\n\nCommands:\n"
    ++ String.join (CommandLine.topLevel.commands.map fun name => "  " ++ name ++ "\n")

/-- What is said about words that are no command line. -/
def complaintOf : Command.ArgumentError → String
  | .help | .version => ""
  | .helpForMissing => helpText
  | .missingCommand => "error: a command is required\n"
  | .unknownCommand => "error: unknown command\n"
  | .unknownArgument => "error: unexpected argument\n"
  | .repeatedArgument => "error: an argument was given twice\n"
  | .invalidValue => "error: invalid value\n"
  | .unreadableValue message => "error: invalid value: " ++ message ++ "\n"
  | .unwantedValue => "error: unexpected value\n"
  | .missingArgument => "error: a required argument is missing\n"

def refused : Command.ArgumentError → Ending
  | .help => { exitCode := 0, output := helpText.toUTF8.toList }
  | .version => { exitCode := 0, output := versionText.toUTF8.toList }
  | e => { exitCode := 2, complaint := complaintOf e }

def failed (r : Report) : Ending := { exitCode := 1, complaint := r.render }

def ended : Except Report Printed → Ending
  | .error r => failed r
  | .ok p => { exitCode := 0, output := p.content }

variable {m : Type → Type} [Monad m] [Host m] [Url.HostNames]

/-- The settings: those of the file that is named, else those at the usual place, if there are
any. -/
def loadSettings (config : Option String) : m (Except SettingsFileError Settings) := do
  match config with
  | some path => return Settings.ofLookup path (← Host.look path)
  | none =>
    match ← Host.settingsPath with
    | none => return .ok {}
    | some path =>
      match ← Host.look path with
      | .error _ => return .ok {}
      | .ok node => return Settings.ofLookup path (.ok node)

/-- Runs the command of a command line with settings. -/
def runWith (c : CommandLine) (s : Settings) : m Ending := do
  let path := c.storePath s
  match ← Host.openStore path s.connectionOptions with
  | .error e => return failed (.ofConnection path e)
  | .ok store =>
    let nanos ← Host.nanos
    let words ← Host.words
    let job : Job := { scheduler := c.scheduler s, tree := s.tree, store, nanos, words }
    let (printed, store) ← job.run c.command
    Host.keepStore path store
    return ended printed

def runLine (c : CommandLine) : m Ending := do
  match ← loadSettings c.config with
  | .error e => return failed (.ofCauses e.causes)
  | .ok s => runWith c s

/-- Runs the program with the words of a command line. -/
def run (words : List String) : m Ending :=
  match CommandLine.parse words with
  | .error e => pure (refused e)
  | .ok c => runLine c

end Run

end Downloads
