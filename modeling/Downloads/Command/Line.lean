import Downloads.Command.Grammar

/-!
# Command lines

The commands of the program and what may be said about each of them.
-/

namespace Downloads

/-- What the program is asked to do. -/
inductive Command where
  | add (download : NewDownload)
  | header (id : Int) (name value : String)
  | pause (id : Int)
  | resume (id : Int)
  | start (id : Int)
  | fail (id : Int) (retryAfter : Option String) (code : Option UInt16)
  | complete (id : Int) (path : String) (totalBytes : Option Int) (mimeType : Option String)
  | tick (now : Option Int)
  | check (id : Int) (restart : Bool)
  | query (path : String)
  | cat (path : String)
  | delete (path : String)
  deriving Repr, DecidableEq

/-- A command with the options that any command takes. -/
structure CommandLine where
  verbose : Nat
  quiet : Bool
  db : Option String
  config : Option String
  offline : Bool
  roaming : Bool
  command : Command
  deriving Repr, DecidableEq

namespace CommandLine

open Command

/-- The options of every command. -/
def commonFlags : List Flag :=
  [{ long := "verbose", short? := some 'v', action := .count },
    { long := "quiet", short? := some 'q', action := .turnOn },
    { long := "db", action := .set .path },
    { long := "config", action := .set .path },
    { long := "offline", action := .turnOn },
    { long := "roaming", action := .turnOn },
    { long := "help", short? := some 'h', action := .showHelp }]

def idPlace : Positional := { name := "id", kind := .integer }

def pathPlace : Positional := { name := "path", kind := .text }

/-- The options of the command that adds a download. -/
def addFlags : List Flag :=
  [{ long := "title", action := .set .text },
    { long := "description", action := .set .text },
    { long := "mime-type", action := .set .text },
    { long := "destination", action := .set .destination },
    { long := "visibility", action := .set .visibility },
    { long := "hidden", action := .turnOn },
    { long := "paused", action := .turnOn },
    { long := "cookies", action := .set .text },
    { long := "referer", action := .set .text },
    { long := "user-agent", action := .set .text },
    { long := "notify-package", action := .set .text },
    { long := "header", action := .append .header }]

/-- The commands, with what each takes beside the common options. -/
def commands : List (String × List Flag × List Positional) :=
  [("add", addFlags, [{ name := "uri", kind := .text }]),
    ("header", [],
      [idPlace, { name := "name", kind := .text }, { name := "value", kind := .text }]),
    ("pause", [], [idPlace]),
    ("resume", [], [idPlace]),
    ("start", [], [idPlace]),
    ("fail",
      [{ long := "retry-after", action := .set .retryAfter },
        { long := "code", action := .set .failureCode }],
      [idPlace]),
    ("complete",
      [{ long := "path", action := .set .path, required := true },
        { long := "total-bytes", action := .set .integer },
        { long := "mime-type", action := .set .text }],
      [idPlace]),
    ("tick", [{ long := "now", action := .set .integer }], []),
    ("check", [{ long := "restart", action := .turnOn }], [idPlace]),
    ("query", [], [{ pathPlace with required := false }]),
    ("cat", [], [pathPlace]),
    ("delete", [], [pathPlace])]

/-- The command that asks for help. -/
def helpCommand : String := "help"

/-- What may stand before a command. -/
def topLevel : Level where
  flags := commonFlags ++ [{ long := "version", short? := some 'V', action := .showVersion }]
  commands := commands.map (·.1) ++ [helpCommand]

/-- The headers among values. -/
def headersOf (values : List Value) : List (String × String) :=
  values.filterMap fun v =>
    match v with
    | .header name value => some (name, value)
    | _ => none

/-- The download that the arguments describe. -/
def newDownload (m : Matches) : NewDownload where
  uri := (m.text? "uri").getD ""
  destination := match m.all "destination" with
    | .destination d :: _ => d
    | _ => .external
  control := if m.has "paused" then .paused else .run
  visibility := match m.all "visibility" with
    | .visibility v :: _ => v
    | _ => .visible
  mimeType := m.text? "mime-type"
  title := m.text? "title"
  description := m.text? "description"
  notificationTarget := (m.text? "notify-package").map fun p => ⟨p, none, none⟩
  cookies := m.text? "cookies"
  userAgent := m.text? "user-agent"
  referer := m.text? "referer"
  visibleInUi := !m.has "hidden"
  headers := headersOf (m.all "header")

/-- The command that matches say, by its name. -/
def commandOf (m : Matches) (name : String) : Command :=
  let id := (m.integer? "id").getD 0
  let path := (m.text? "path").getD "roots"
  match name with
  | "add" => .add (newDownload m)
  | "header" => .header id ((m.text? "name").getD "") ((m.text? "value").getD "")
  | "pause" => .pause id
  | "resume" => .resume id
  | "start" => .start id
  | "fail" =>
    .fail id (m.text? "retry-after") ((m.integer? "code").map fun n => UInt16.ofNat n.toNat)
  | "complete" => .complete id path (m.integer? "total-bytes") (m.text? "mime-type")
  | "check" => .check id (m.has "restart")
  | "query" => .query path
  | "cat" => .cat path
  | "delete" => .delete path
  | _ => .tick (m.integer? "now")

/-- The answer to a request for help on further words. -/
def helpFor : List String → ArgumentError
  | [] => .help
  | [w] => if topLevel.commands.contains w then .help else .unknownCommand
  | _ => .unknownCommand

/-- What was matched after the name of a command. -/
def parseCommand (name : String) (words : List String) : Except ArgumentError Matches := do
  let (flags, places) := (commands.lookup name).getD ([], [])
  let level : Level := { flags := commonFlags ++ flags, positionals := places }
  let (s, _) ← Scan.meetAll level { places } words
  let s ← s.settle
  Scan.checkRequired level s.found
  return s.found

/-- The command line with matches before and after the name of the command. An option that stands
at both places means what it says after the name. -/
def ofMatches (before after : Matches) (name : String) : CommandLine where
  verbose := min 255 (if after.has "verbose" then after.count "verbose" else before.count "verbose")
  quiet := before.has "quiet" || after.has "quiet"
  db := (after.text? "db").or (before.text? "db")
  config := (after.text? "config").or (before.text? "config")
  offline := before.has "offline" || after.has "offline"
  roaming := before.has "roaming" || after.has "roaming"
  command := commandOf after name

/-- Reads a command line, without the name of the program. -/
def parse (words : List String) : Except ArgumentError CommandLine := do
  let (s, rest) ← Scan.meetAll topLevel { places := [] } words
  match rest with
  | some (name, words) =>
    if name = helpCommand then throw (helpFor words)
    let after ← parseCommand name words
    let s ← s.settle
    return ofMatches s.found after name
  | none =>
    let s ← s.settle
    throw (if s.found.met.isEmpty then .helpForMissing else .missingCommand)

end CommandLine

end Downloads
