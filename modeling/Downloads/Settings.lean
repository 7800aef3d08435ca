import Downloads.Network
import Downloads.Text.Blank
import Downloads.Text.Split

/-!
# Settings

A settings file assigns values to known keys, one a line. A number sign outside quotes starts a
comment. Later lines replace what earlier ones said, and once all lines are read the values are
held against their ranges.
-/

namespace Downloads

/-- How much is logged. -/
inductive Verbosity where
  | default
  | verbose
  | quiet
  | debug
  deriving Repr, DecidableEq

namespace Verbosity

def all : List Verbosity := [.default, .verbose, .quiet, .debug]

def name : Verbosity → String
  | .default => "default"
  | .verbose => "verbose"
  | .quiet => "quiet"
  | .debug => "debug"

def ofName? (s : String) : Option Verbosity := all.find? fun v => v.name == s

end Verbosity

/-- What a settings file sets. -/
structure Settings where
  dbPath : Option String := none
  verbosity : Option Verbosity := none
  dbMaxConnections : Option Nat := none
  dbBusyTimeoutMs : Option Nat := none
  retryBaseDelaySecs : Option Nat := none
  labelQueued : Option String := none
  labelRunning : Option String := none
  labelError : Option String := none
  rootTitle : Option String := none
  networkAvailable : Option Bool := none
  networkRoaming : Option Bool := none
  networkType : Option NetworkType := none
  deriving Repr, DecidableEq

/-- A key of a settings file. -/
inductive SettingKey where
  | dbPath
  | verbosity
  | dbMaxConnections
  | dbBusyTimeoutMs
  | retryBaseDelaySecs
  | labelQueued
  | labelRunning
  | labelError
  | rootTitle
  | networkAvailable
  | networkRoaming
  | networkType
  deriving Repr, DecidableEq

namespace SettingKey

def all : List SettingKey :=
  [.dbPath, .verbosity, .dbMaxConnections, .dbBusyTimeoutMs, .retryBaseDelaySecs, .labelQueued,
    .labelRunning, .labelError, .rootTitle, .networkAvailable, .networkRoaming, .networkType]

def name : SettingKey → String
  | .dbPath => "db_path"
  | .verbosity => "verbosity"
  | .dbMaxConnections => "db_max_connections"
  | .dbBusyTimeoutMs => "db_busy_timeout_ms"
  | .retryBaseDelaySecs => "retry_base_delay_secs"
  | .labelQueued => "label_queued"
  | .labelRunning => "label_running"
  | .labelError => "label_error"
  | .rootTitle => "root_title"
  | .networkAvailable => "network_available"
  | .networkRoaming => "network_roaming"
  | .networkType => "network_type"

def ofName? (s : String) : Option SettingKey := all.find? fun k => k.name == s

theorem ofName?_name (k : SettingKey) : ofName? k.name = some k := by cases k <;> decide

end SettingKey

/-! ## Errors -/

/-- Why a text is no value of its key. -/
inductive ValueFault where
  | notQuoted
  | noInteger
  | integer (error : Text.IntegerError)
  | negative
  | tooLarge
  | unknownVerbosity
  | notABoolean
  | unknownNetworkType (s : String)
  deriving Repr, DecidableEq

def ValueFault.message : ValueFault → String
  | .notQuoted => "Expected double-quoted string"
  | .noInteger => "Expected integer value"
  | .integer e => e.message
  | .negative => "Expected non-negative integer"
  | .tooLarge => "Integer value out of range for u32"
  | .unknownVerbosity => "Expected one of: default, verbose, quiet, debug"
  | .notABoolean => "Expected 'true' or 'false'"
  | .unknownNetworkType s => NetworkType.unknownMessage s

/-- Why a text is no settings file. Lines are counted from one. -/
inductive SettingsError where
  | noAssignment (line : Nat)
  | unknownKey (key : String) (line : Nat)
  | invalidValue (key : SettingKey) (line : Nat) (fault : ValueFault)
  | outOfRange (key : SettingKey) (value low high : Nat)
  | blankText (key : SettingKey)
  deriving Repr, DecidableEq

def SettingsError.causes : SettingsError → List String
  | .noAssignment line =>
    ["Invalid config syntax on line " ++ Text.decimal line ++ ": expected key = value"]
  | .unknownKey key line =>
    ["Unknown configuration key: '" ++ key ++ "' on line " ++ Text.decimal line]
  | .invalidValue key line fault =>
    ["Invalid `" ++ key.name ++ "` value on line " ++ Text.decimal line, fault.message]
  | .outOfRange key value low high =>
    ["Invalid config value for `" ++ key.name ++ "`: " ++ Text.decimal value
      ++ ". Expected range: " ++ Text.decimal low ++ "..=" ++ Text.decimal high]
  | .blankText key => ["Invalid config value for `" ++ key.name ++ "`: must not be empty"]

/-! ## Values -/

namespace Settings

/-- A text between quotes. Quotes inside it stand for themselves. -/
def parseQuoted : List Char → Except ValueFault String
  | '"' :: s =>
    if s.getLast? = some '"' then .ok (String.ofList s.dropLast) else .error .notQuoted
  | _ => .error .notQuoted

/-- The largest number, which has 32 bits. -/
def maxNumber : Int := 4294967295

def parseNumber (s : List Char) : Except ValueFault Nat :=
  if s.isEmpty then .error .noInteger
  else
    match Text.parseInteger 128 s with
    | .error e => .error (.integer e)
    | .ok n =>
      if n < 0 then .error .negative
      else if maxNumber < n then .error .tooLarge
      else .ok n.toNat

def parseVerbosity (s : List Char) : Except ValueFault Verbosity := do
  match Verbosity.ofName? (← parseQuoted s) with
  | some v => return v
  | none => throw .unknownVerbosity

def parseBoolean (s : List Char) : Except ValueFault Bool :=
  if s = "true".toList then .ok true
  else if s = "false".toList then .ok false
  else .error .notABoolean

def parseNetworkType (s : List Char) : Except ValueFault NetworkType := do
  let name ← parseQuoted s
  match NetworkType.ofName? name with
  | some t => return t
  | none => throw (.unknownNetworkType name)

/-- The settings with one more assignment. -/
def assign (c : Settings) (key : SettingKey) (value : List Char) : Except ValueFault Settings :=
  match key with
  | .dbPath => (parseQuoted value).map fun v => { c with dbPath := some v }
  | .verbosity => (parseVerbosity value).map fun v => { c with verbosity := some v }
  | .dbMaxConnections => (parseNumber value).map fun v => { c with dbMaxConnections := some v }
  | .dbBusyTimeoutMs => (parseNumber value).map fun v => { c with dbBusyTimeoutMs := some v }
  | .retryBaseDelaySecs =>
    (parseNumber value).map fun v => { c with retryBaseDelaySecs := some v }
  | .labelQueued => (parseQuoted value).map fun v => { c with labelQueued := some v }
  | .labelRunning => (parseQuoted value).map fun v => { c with labelRunning := some v }
  | .labelError => (parseQuoted value).map fun v => { c with labelError := some v }
  | .rootTitle => (parseQuoted value).map fun v => { c with rootTitle := some v }
  | .networkAvailable => (parseBoolean value).map fun v => { c with networkAvailable := some v }
  | .networkRoaming => (parseBoolean value).map fun v => { c with networkRoaming := some v }
  | .networkType => (parseNetworkType value).map fun v => { c with networkType := some v }

/-! ## Lines -/

/-- The line without its comment: a number sign outside quotes starts one. -/
def stripComment (inQuotes : Bool) : List Char → List Char
  | [] => []
  | c :: cs =>
    if c = '#' ∧ !inQuotes then []
    else c :: stripComment (if c = '"' then !inQuotes else inQuotes) cs

def content (line : List Char) : List Char := Text.trimBoth Text.isBlank (stripComment false line)

/-- The settings after one more line. -/
def readLine (c : Settings) (number : Nat) (line : List Char) : Except SettingsError Settings :=
  if (content line).isEmpty then .ok c
  else
    match Text.splitOnce '=' (content line) with
    | none => .error (.noAssignment number)
    | some (left, right) =>
      let name := String.ofList (Text.trimBoth Text.isBlank left)
      match SettingKey.ofName? name with
      | none => .error (.unknownKey name number)
      | some key =>
        (c.assign key (Text.trimBoth Text.isBlank right)).mapError (.invalidValue key number)

/-- The settings after more lines, of which the first has the given number. -/
def readLines (c : Settings) (number : Nat) : List (List Char) → Except SettingsError Settings
  | [] => .ok c
  | line :: lines => do
    let c ← c.readLine number line
    c.readLines (number + 1) lines

/-- A number, if it is set, lies in a range. -/
def checkRange (key : SettingKey) (low high : Nat) : Option Nat → Except SettingsError Unit
  | none => .ok ()
  | some n => if low ≤ n ∧ n ≤ high then .ok () else .error (.outOfRange key n low high)

/-- A text, if it is set, is not blank. -/
def checkText (key : SettingKey) : Option String → Except SettingsError Unit
  | none => .ok ()
  | some s => if Text.isBlankText s then .error (.blankText key) else .ok ()

/-- All values lie in their ranges. -/
def validate (c : Settings) : Except SettingsError Unit := do
  checkRange .dbMaxConnections 1 20 c.dbMaxConnections
  checkRange .dbBusyTimeoutMs 0 120000 c.dbBusyTimeoutMs
  checkRange .retryBaseDelaySecs 1 3600 c.retryBaseDelaySecs
  checkText .labelQueued c.labelQueued
  checkText .labelRunning c.labelRunning
  checkText .labelError c.labelError
  checkText .rootTitle c.rootTitle

/-- A line without the carriage return at its end. -/
def dropReturn (line : List Char) : List Char :=
  if line.getLast? = some '\r' then line.dropLast else line

/-- The lines of a text. The last one is none if it is empty, and keeps a carriage return. -/
def linesOf (text : List Char) : List (List Char) :=
  match (Text.splitAt (· == '\n') text).reverse with
  | [] => []
  | last :: before =>
    (before.reverse.map dropReturn) ++ if last.isEmpty then [] else [last]

/-- The settings that a text says. -/
def parse (text : String) : Except SettingsError Settings := do
  let c ← readLines {} 1 (linesOf text.toList)
  c.validate
  return c

end Settings

end Downloads
