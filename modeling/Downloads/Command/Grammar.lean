import Downloads.Schedule.RetryAfter
import Downloads.Store.Basic
import Downloads.Text.Quoted

/-!
# Command line grammar

Options and positional arguments, and how a list of words is matched against them. An option may
stand anywhere before a double dash, its value may follow it or be attached to it, and options of
one letter may share a dash. A value is read when the next argument is met, so of two faults the
earlier one is reported, unless an unknown argument comes right after a bad value.
-/

namespace Downloads.Command

/-- What kind of text an argument takes. -/
inductive ValueKind where
  | text
  /-- A path, which is not empty. -/
  | path
  | integer
  | failureCode
  /-- A request header, as a name and a value around a colon. -/
  | header
  /-- A number of seconds or a date. -/
  | retryAfter
  | destination
  | visibility
  deriving Repr, DecidableEq

inductive Value where
  | text (s : String)
  | integer (n : Int)
  | header (name value : String)
  | destination (d : Destination)
  | visibility (v : Visibility)
  deriving Repr, DecidableEq

/-- Why words are no command line. The first three ask for a text instead of a command. -/
inductive ArgumentError where
  | help
  | version
  /-- There is nothing at all. -/
  | helpForMissing
  | missingCommand
  | unknownCommand
  | unknownArgument
  | repeatedArgument
  /-- An option without a value, or with one that is not among those it takes. -/
  | invalidValue
  /-- A value that cannot be read. -/
  | unreadableValue (message : String)
  /-- A value for an option that takes none. -/
  | unwantedValue
  | missingArgument
  deriving Repr, DecidableEq

/-- The destinations by the words that name them. -/
def destinationWords : List (String × Destination) :=
  [("external", .external), ("cache", .cachePartition),
    ("cache-purgeable", .cachePartitionPurgeable), ("cache-no-roaming", .cacheNoRoaming),
    ("file", .fileUri)]

/-- The visibilities by the words that name them. -/
def visibilityWords : List (String × Visibility) :=
  [("visible", .visible), ("notify", .visibleNotifyCompleted), ("hidden", .hidden)]

/-- Reads a request header: what stands around the first colon, without blanks at the ends. -/
def readHeader (s : String) : Except ArgumentError Value :=
  match Text.splitOnce ':' s.toList with
  | none => .error (.unreadableValue ("expected NAME:VALUE, got " ++ Text.quoted s))
  | some (name, value) =>
    let name := Text.trimBoth Text.isBlank name
    if name.isEmpty then .error (.unreadableValue "header name must not be empty")
    else .ok (.header (String.ofList name) (String.ofList (Text.trimBoth Text.isBlank value)))

/-- Reads the wait that a server asked for, and keeps it as a text without blanks at its ends. -/
def readRetryAfter (s : String) : Except ArgumentError Value :=
  let trimmed := Text.trimBoth Text.isBlank s.toList
  if RetryAfter.isReadable trimmed then .ok (.text (String.ofList trimmed))
  else .error (.unreadableValue ("expected seconds or an HTTP-date, got " ++ Text.quoted s))

/-- Reads an integer of 64 bits. -/
def readInteger (s : String) : Except ArgumentError Int :=
  (Text.parseInteger 64 s.toList).mapError fun e => .unreadableValue e.message

/-- Reads a failure code. -/
def readFailureCode (s : String) : Except ArgumentError Value := do
  let n ← readInteger s
  if Status.isFailureCode n then return .integer n
  throw (.unreadableValue (Text.decimal n ++ " is not in 400..=599"))

/-- The value that a text gives. -/
def ValueKind.read (s : String) : ValueKind → Except ArgumentError Value
  | .text => .ok (.text s)
  | .path => if s = "" then .error .invalidValue else .ok (.text s)
  | .integer => (readInteger s).map .integer
  | .failureCode => readFailureCode s
  | .header => readHeader s
  | .retryAfter => readRetryAfter s
  | .destination =>
    match destinationWords.lookup s with
    | some d => .ok (.destination d)
    | none => .error .invalidValue
  | .visibility =>
    match visibilityWords.lookup s with
    | some v => .ok (.visibility v)
    | none => .error .invalidValue

/-- What meeting an argument does. -/
inductive Action where
  /-- Sets a value, once. -/
  | set (kind : ValueKind)
  /-- Adds a value to those that are there. -/
  | append (kind : ValueKind)
  /-- Turns something on, once. -/
  | turnOn
  | count
  | showHelp
  | showVersion
  deriving Repr, DecidableEq

namespace Action

/-- The kind of value that the argument takes. -/
def kind? : Action → Option ValueKind
  | .set k | .append k => some k
  | _ => none

/-- Whether the argument may be met more than once. -/
def repeats : Action → Bool
  | .append _ | .count => true
  | _ => false

end Action

/-- An argument that is named on the command line. -/
structure Flag where
  long : String
  /-- The letter after one dash. -/
  short? : Option Char := none
  action : Action
  required : Bool := false
  deriving Repr, DecidableEq

/-- An argument that is known by its place. -/
structure Positional where
  name : String
  kind : ValueKind
  required : Bool := true
  deriving Repr, DecidableEq

/-- The arguments of a command, and the names of its subcommands. -/
structure Level where
  flags : List Flag
  positionals : List Positional := []
  commands : List String := []
  deriving Repr, DecidableEq

/-- What was found for a command: names with values, and for flags without values how often they
were met. -/
structure Matches where
  values : List (String × Value) := []
  met : List String := []
  deriving Repr, DecidableEq

namespace Matches

def has (m : Matches) (name : String) : Bool := m.met.contains name

def count (m : Matches) (name : String) : Nat := m.met.count name

def all (m : Matches) (name : String) : List Value :=
  (m.values.filter fun v => v.1 == name).map (·.2)

def text? (m : Matches) (name : String) : Option String :=
  match (m.all name).head? with
  | some (.text s) => some s
  | _ => none

def integer? (m : Matches) (name : String) : Option Int :=
  match (m.all name).head? with
  | some (.integer n) => some n
  | _ => none

end Matches

/-- An argument whose value is not read yet. -/
structure Pending where
  name : String
  action : Action
  value : Option String
  deriving Repr, DecidableEq

/-- A command line that is being matched. -/
structure Scan where
  found : Matches := {}
  pending : Option Pending := none
  /-- The positional arguments to come. -/
  places : List Positional
  /-- The double dash was met. -/
  onlyPlaces : Bool := false
  deriving Repr, DecidableEq

namespace Scan

/-- Notes an argument with its value. -/
def note (s : Scan) (name : String) (action : Action) (value : Option String) :
    Except ArgumentError Scan :=
  match action.kind? with
  | some kind =>
    match value with
    | none => .error .invalidValue
    | some raw =>
      if s.found.has name ∧ !action.repeats then .error .repeatedArgument
      else do
        let v ← kind.read raw
        return { s with found := {
          values := s.found.values ++ [(name, v)], met := s.found.met ++ [name] } }
  | none =>
    match action with
    | .showHelp => .error .help
    | .showVersion => .error .version
    | _ =>
      if s.found.has name ∧ !action.repeats then .error .repeatedArgument
      else .ok { s with found := { s.found with met := s.found.met ++ [name] } }

/-- Reads the value that is pending. -/
def settle (s : Scan) : Except ArgumentError Scan :=
  match s.pending with
  | none => .ok s
  | some p => { s with pending := none }.note p.name p.action p.value

/-- Whether the last option still waits for its value. -/
def expectsValue (s : Scan) : Bool :=
  match s.pending with
  | some p => p.value.isNone
  | none => false

/-- Meets a named argument, with the value attached to it. -/
def meet (s : Scan) (f : Flag) (attached : Option String) : Except ArgumentError Scan :=
  match f.action.kind?, attached with
  | none, some _ => .error .unwantedValue
  | some _, none => do
    let s ← s.settle
    return { s with pending := some ⟨f.long, f.action, none⟩ }
  | _, attached => do
    let s ← s.settle
    s.note f.long f.action attached

/-- Meets the letters after one dash. -/
def meetLetters (flags : List Flag) (s : Scan) : List Char → Except ArgumentError Scan
  | [] => .ok s
  | c :: cs =>
    match flags.find? fun f => f.short? == some c with
    | none => .error .unknownArgument
    | some f => do
      let s ← s.meet f none
      s.meetLetters flags cs

/-- Meets a positional argument. -/
def meetPlace (level : Level) (s : Scan) (word : String) : Except ArgumentError Scan :=
  match s.places with
  | p :: places => do
    let s ← s.settle
    return { s with pending := some ⟨p.name, .set p.kind, some word⟩, places }
  | [] =>
    if level.commands.isEmpty ∨ (s.onlyPlaces ∧ level.commands.contains word) then
      .error .unknownArgument
    else .error .unknownCommand

/-- Meets a word that is no subcommand. -/
def meetWord (level : Level) (s : Scan) (word : String) : Except ArgumentError Scan :=
  if s.onlyPlaces then s.meetPlace level word
  else
    match word.toList with
    | ['-', '-'] => .ok { s with onlyPlaces := true }
    | '-' :: '-' :: cs =>
      let (name, attached) := match Text.splitOnce '=' cs with
        | none => (cs, none)
        | some (name, value) => (name, some (String.ofList value))
      match level.flags.find? fun f => f.long.toList == name with
      | none => .error .unknownArgument
      | some f => s.meet f attached
    | '-' :: c :: cs => s.meetLetters level.flags (c :: cs)
    | _ =>
      match s.pending with
      | some ⟨name, action, none⟩ => .ok { s with pending := some ⟨name, action, some word⟩ }
      | _ => s.meetPlace level word

/-- Meets words up to a subcommand, which is given with the words after it. -/
def meetAll (level : Level) (s : Scan) :
    List String → Except ArgumentError (Scan × Option (String × List String))
  | [] => .ok (s, none)
  | w :: ws =>
    if !s.onlyPlaces && !s.expectsValue && level.commands.contains w then .ok (s, some (w, ws))
    else do
      let s ← s.meetWord level w
      s.meetAll level ws

/-- All that a command needs was given. -/
def checkRequired (level : Level) (m : Matches) : Except ArgumentError Unit :=
  if (level.flags.any fun f => f.required && !m.has f.long)
      || (level.positionals.any fun p => p.required && !m.has p.name) then
    .error .missingArgument
  else .ok ()

end Scan

end Downloads.Command
