import Downloads.Url.Host

/-!
# URLs

Absolute URLs as the WHATWG standard reads them: which texts are one, and the segments of their
paths. A path is normalised while it is read: dots are resolved, and characters that may not
stand in a path are written as bytes in hexadecimal.
-/

namespace Downloads

/-- An absolute URL, as far as its path. -/
structure Url where
  scheme : List Char
  /-- The segments of the path, or none if it has no leading slash. -/
  segments? : Option (List (List Char))
  deriving Repr, DecidableEq

namespace Url

/-! ## Schemes -/

/-- The rules that a scheme brings. -/
inductive SchemeKind where
  | file
  /-- A scheme with an authority: the web, its sockets, and file transfer. -/
  | special
  /-- Any other scheme. -/
  | plain
  deriving Repr, DecidableEq

/-- The rules of a scheme. -/
def SchemeKind.of (scheme : List Char) : SchemeKind :=
  if scheme = "file".toList then .file
  else if [("http" : String), "https", "ws", "wss", "ftp"].any (·.toList == scheme) then .special
  else .plain

/-- Characters of a scheme after its first. -/
def isSchemeChar (c : Char) : Bool := c.isAlphanum || c == '+' || c == '-' || c == '.'

/-- The scheme, in lower case, and what stands after its colon. -/
def splitScheme? : List Char → Option (List Char × List Char)
  | [] => none
  | c :: cs =>
    if c.isAlpha then
      match (c :: cs).dropWhile isSchemeChar with
      | ':' :: rest => some (((c :: cs).takeWhile isSchemeChar).map Char.toLower, rest)
      | _ => none
    else none

/-! ## Paths -/

/-- The visible characters that are never written as they stand in a path. -/
def encodedMarks : List Char := ['"', '<', '>', '`', '#', '?', '\x7b', '\x7d']

/-- Whether a byte is written as it stands in a path. -/
def isPathByte (b : UInt8) : Bool :=
  let n := b.toNat
  0x20 < n && n < 0x7F && !encodedMarks.contains (Char.ofNat n)

/-- A hexadecimal digit in upper case. -/
def upperHexDigit (n : Nat) : Char :=
  if n < 10 then Char.ofNat ('0'.toNat + n) else Char.ofNat ('A'.toNat + (n - 10))

/-- A byte as it is written in a path. -/
def encodePathByte (b : UInt8) : List Char :=
  if isPathByte b then [Char.ofNat b.toNat]
  else ['%', upperHexDigit (b.toNat / 16), upperHexDigit (b.toNat % 16)]

/-- A segment as it is written in a path. -/
def encodeSegment (s : List Char) : List Char :=
  (String.ofList s).toUTF8.toList.flatMap encodePathByte

/-- The segment with dots in place of their encodings. -/
def plainDots : List Char → List Char
  | '%' :: '2' :: 'e' :: rest | '%' :: '2' :: 'E' :: rest => '.' :: plainDots rest
  | c :: rest => c :: plainDots rest
  | [] => []

/-- A letter and a colon or bar, which name a drive. -/
def isDriveLetter : List Char → Bool
  | [c, d] => c.isAlpha && (d == ':' || d == '|')
  | _ => false

/-- Segments that two dots do not remove: a drive, alone or before a backslash. Whoever reads the
path does not ask here for the scheme, so this holds of drives outside of files too. -/
def staysUnderDots : List Char → Bool
  | [c, d] | c :: d :: '\\' :: _ => isDriveLetter [c, d]
  | _ => false

/-- The segments without the last. -/
def shorten (done : List (List Char)) : List (List Char) :=
  match done.getLast? with
  | none => done
  | some s => if staysUnderDots s then done else done.dropLast

/-- The first segment of a file path. If it names a drive, it does so with a colon. -/
def normalDrive : List Char → List Char
  | [c, '|'] => if c.isAlpha then [c, ':'] else [c, '|']
  | s => s

/-- The path after one more segment. Dots take segments away instead of adding one; at the end
of the path an empty segment takes their place. -/
def addSegment (kind : SchemeKind) (done : List (List Char)) (segment : List Char)
    (isLast : Bool) : List (List Char) :=
  let close (path : List (List Char)) := if isLast then path ++ [[]] else path
  let encoded := encodeSegment segment
  if plainDots encoded = ['.', '.'] then close (shorten done)
  else if plainDots encoded = ['.'] then close done
  else done ++ [if kind = .file ∧ done = [] then normalDrive encoded else encoded]

/-- The path after more segments. -/
def addSegments (kind : SchemeKind) (done : List (List Char)) :
    List (List Char) → List (List Char)
  | [] => done
  | [s] => addSegment kind done s true
  | s :: rest => addSegments kind (addSegment kind done s false) rest

/-- Where a path ends. -/
def endsPath (c : Char) : Bool := c == '?' || c == '#'

/-- What divides the segments of a path. -/
def isSlash (kind : SchemeKind) (c : Char) : Bool := c == '/' || (c == '\\' && kind != .plain)

/-- The segments of a path whose leading slash is already read. -/
def readPath (kind : SchemeKind) (s : List Char) : List (List Char) :=
  addSegments kind [] (Text.splitAt (isSlash kind) (s.takeWhile fun c => !endsPath c))

/-- The path without a leading slash, if there is one. -/
def dropSlash (kind : SchemeKind) : List Char → List Char
  | [] => []
  | c :: cs => if isSlash kind c then cs else c :: cs

/-! ## Authorities -/

/-- The part of a text before the first character that ends an authority, and the rest. -/
def splitAuthority (kind : SchemeKind) (s : List Char) : List Char × List Char :=
  let inside (c : Char) : Bool := !isSlash kind c && !endsPath c
  (s.takeWhile inside, s.dropWhile inside)

/-- What stands before and after the last `@`, if there is one. -/
def splitUserinfo (s : List Char) : Option (List Char × List Char) :=
  (Text.splitOnce '@' s.reverse).map fun (after, before) => (before.reverse, after.reverse)

/-- The host and what follows it: the first colon outside brackets divides them. -/
def splitHost (s : List Char) (inBrackets : Bool) : List Char × List Char :=
  match s with
  | [] => ([], [])
  | c :: cs =>
    if c = ':' ∧ !inBrackets then ([], c :: cs)
    else
      let (host, rest) :=
        splitHost cs (if c = '[' then true else if c = ']' then false else inBrackets)
      (c :: host, rest)

/-- Checks a port, of which a colon and a backslash may stand at either side, and gives what
follows it. -/
def readPort : List Char → Except UrlError (List Char)
  | ':' :: s =>
    let port := s.takeWhile (· != '\\')
    if port.all Char.isDigit ∧ Text.digitsValue port ≤ 65535 then .ok (s.dropWhile (· != '\\'))
    else .error .invalidPort
  | s => .ok s

/-- Reads user, host and port, and gives the path. -/
def readAuthority [HostNames] (kind : SchemeKind) (s : List Char) :
    Except UrlError (List Char) := do
  let (authority, rest) := splitAuthority kind s
  let (user, address) := (splitUserinfo authority).getD ([], authority)
  if user = [] ∧ address = [] ∧ authority ≠ [] ∧ rest ≠ [] then throw .emptyHost
  let (host, port) := splitHost address false
  if kind = .plain then
    checkPlainHost host
    if host = [] ∧ port ≠ [] then throw .emptyHost
  else
    if host = [] then throw .emptyHost
    checkHost host
  let left ← readPort port
  if host = [] ∧ user ≠ [] ∧ user ≠ [':'] then throw .emptyHost
  return left ++ rest

/-! ## Whole URLs -/

/-- The segments of a file path, without the empty ones at its start. -/
def trimLeading (segments : List (List Char)) : List (List Char) :=
  match segments.dropWhile List.isEmpty with
  | [] => [[]]
  | rest => rest

/-- The path of a file URL, after its scheme and without a leading slash. Two slashes start a host,
which may be empty, unless a drive stands in its place. -/
def readFile [HostNames] (s : List Char) : Except UrlError (List Char) :=
  match s with
  | a :: b :: afterSlashes =>
    if isSlash .file a && isSlash .file b then
      let (host, rest) := splitAuthority .file afterSlashes
      if isDriveLetter host then .ok afterSlashes
      else if host = [] then .ok (dropSlash .file rest)
      else (checkHost host).map fun _ => dropSlash .file rest
    else .ok (dropSlash .file s)
  | s => .ok (dropSlash .file s)

/-- The path of a URL of a scheme with an authority, without its leading slash. -/
def readSpecial [HostNames] (s : List Char) : Except UrlError (List Char) := do
  return dropSlash .special (← readAuthority .special (s.dropWhile (isSlash .special)))

/-- The path of a URL of any other scheme, without its leading slash. Two slashes start an
authority, after which the path may be empty; one slash starts a path. -/
def readPlain [HostNames] (s : List Char) : Except UrlError (Option (List Char)) :=
  match s with
  | '/' :: '/' :: s => do
    let path ← readAuthority .plain s
    match path with
    | [] => return none
    | c :: _ => return if endsPath c then none else some (dropSlash .plain path)
  | '/' :: s => .ok (some s)
  | _ => .ok none

/-- Controls and blanks, which are cut off at the ends of a URL. -/
def isControlOrBlank (c : Char) : Bool := c.toNat ≤ 0x20

/-- Characters that are ignored wherever they stand. -/
def isIgnored (c : Char) : Bool := c == '\t' || c == '\n' || c == '\r'

/-- The characters of a text that count. -/
def significant (s : List Char) : List Char :=
  (((s.dropWhile isControlOrBlank).reverse.dropWhile isControlOrBlank).reverse).filter
    fun c => !isIgnored c

/-- The absolute URL that a text is. -/
def parse [HostNames] (s : String) : Except UrlError Url := do
  match splitScheme? (significant s.toList) with
  | none => throw .relativeWithoutBase
  | some (scheme, rest) =>
    match SchemeKind.of scheme with
    | .file => return ⟨scheme, some (trimLeading (readPath .file (← readFile rest)))⟩
    | .special => return ⟨scheme, some (readPath .special (← readSpecial rest))⟩
    | .plain => return ⟨scheme, (← readPlain rest).map (readPath .plain)⟩

/-- The last segment of the path that is not empty. -/
def lastSegment? (u : Url) : Option (List Char) :=
  u.segments?.bind fun segments => (segments.filter fun s => !s.isEmpty).getLast?

end Url

end Downloads
