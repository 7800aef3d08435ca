import Downloads.Text.Integer
import Downloads.Text.Split

/-!
# Hosts

Which texts are hosts of a URL: addresses of IP version 6 in brackets, addresses of version 4,
names of domains, and for schemes without rules of their own any text that cannot be mistaken
for another part of the URL.
-/

namespace Downloads

/-- Why a text is not an absolute URL. -/
inductive UrlError where
  | relativeWithoutBase
  | emptyHost
  | invalidPort
  | invalidIpv4
  | invalidIpv6
  | invalidDomainCharacter
  | invalidDomainName
  deriving Repr, DecidableEq

def UrlError.message : UrlError → String
  | .relativeWithoutBase => "relative URL without a base"
  | .emptyHost => "empty host"
  | .invalidPort => "invalid port number"
  | .invalidIpv4 => "invalid IPv4 address"
  | .invalidIpv6 => "invalid IPv6 address"
  | .invalidDomainCharacter => "invalid domain character"
  | .invalidDomainName => "invalid international domain name"

namespace Url

/-- A hexadecimal digit, in either case. -/
def isHexDigit (c : Char) : Bool :=
  c.isDigit || ('a' ≤ c && c ≤ 'f') || ('A' ≤ c && c ≤ 'F')

/-- The value of a hexadecimal digit. -/
def hexValue (c : Char) : Nat :=
  if c.isDigit then c.toNat - '0'.toNat
  else if 'a' ≤ c then c.toNat - 'a'.toNat + 10
  else c.toNat - 'A'.toNat + 10

/-! ## Version 6 -/

/-- A part of an address of version 4 that ends one of version 6: a number up to 255 without
leading zeros. -/
def isStrictByte (ds : List Char) : Bool :=
  !ds.isEmpty && ds.all Char.isDigit && (ds.length == 1 || ds.head? != some '0')
    && Text.digitsValue ds ≤ 255

/-- Four such parts with points between them. -/
def isStrictIpv4 (s : List Char) : Bool :=
  let parts := Text.splitAt (· == '.') s
  parts.length == 4 && parts.all isStrictByte

/-- The rest of an address after `count` groups. One empty group may stand for as many zeros as
are missing; `compressed` tells whether it was there. The last two groups may be an address of
version 4. -/
def isIpv6Rest (s : List Char) (count : Nat) (compressed : Bool) : Bool :=
  match s with
  | [] => compressed || count == 8
  | ':' :: rest => count < 8 && !compressed && isIpv6Rest rest (count + 1) true
  | c :: rest =>
    let group := ((c :: rest).takeWhile isHexDigit).take 4
    if count = 8 ∨ group = [] then false
    else
      match rest.drop (group.length - 1) with
      | [] => compressed || count == 7
      | '.' :: _ => count ≤ 6 && isStrictIpv4 (c :: rest) && (compressed || count == 6)
      | ':' :: next => !next.isEmpty && isIpv6Rest (rest.drop group.length) (count + 1) compressed
      | _ => false
termination_by s.length
decreasing_by
  all_goals simp only [List.length_cons, List.length_drop]
  all_goals omega

/-- An address of version 6, without its brackets. -/
def isIpv6 (s : List Char) : Bool :=
  match s with
  | ':' :: ':' :: rest => isIpv6Rest rest 1 true
  | [] | [_] | ':' :: _ => false
  | s => isIpv6Rest s 0 false

/-! ## Version 4 -/

/-- What a part of an address of version 4 denotes. -/
inductive Ipv4Part where
  | number (n : Nat)
  | tooLarge
  | notANumber
  deriving Repr, DecidableEq

/-- The number in a base, if it has 32 bits. -/
def readBase (base : Nat) (isDigit : Char → Bool) (ds : List Char) : Ipv4Part :=
  if ds.all isDigit then
    let n := ds.foldl (fun n c => base * n + hexValue c) 0
    if n < 4294967296 then .number n else .tooLarge
  else .notANumber

/-- A part of an address: hexadecimal after `0x`, octal after another zero, else decimal. -/
def readIpv4Part : List Char → Ipv4Part
  | [] => .notANumber
  | '0' :: 'x' :: ds | '0' :: 'X' :: ds =>
    if ds.isEmpty then .number 0 else readBase 16 isHexDigit ds
  | '0' :: d :: ds => readBase 8 (fun c => '0' ≤ c && c ≤ '7') (d :: ds)
  | ds => readBase 10 Char.isDigit ds

/-- The parts of a name between its points, without an empty one at the end. -/
def nameParts (s : List Char) : List (List Char) :=
  let parts := Text.splitAt (· == '.') s
  if parts.getLast? = some [] then parts.dropLast else parts

/-- A name whose last part is a number can only be an address of version 4. -/
def endsInNumber (s : List Char) : Bool :=
  match (nameParts s).getLast? with
  | none => false
  | some part =>
    (!part.isEmpty && part.all Char.isDigit) || readIpv4Part part != .notANumber

/-- An address of version 4: at most four numbers of which all but the last are bytes, and the
last fills the bytes that are left. -/
def isIpv4 (s : List Char) : Bool :=
  let numbers := (nameParts s).map readIpv4Part
  let isByte : Ipv4Part → Bool := fun p =>
    match p with
    | .number n => n ≤ 255
    | _ => false
  numbers.length ≤ 4 && numbers.dropLast.all isByte
    && match numbers.getLast? with
      | some (.number n) => n < Nat.pow 256 (5 - numbers.length)
      | _ => false

/-! ## Domains -/

/-- The bytes of a text in which `%` and two hexadecimal digits stand for a byte. -/
def percentDecode : List Char → List UInt8
  | '%' :: a :: b :: rest =>
    if isHexDigit a && isHexDigit b then
      UInt8.ofNat (16 * hexValue a + hexValue b) :: percentDecode rest
    else '%'.toUInt8 :: percentDecode (a :: b :: rest)
  | c :: rest => (String.singleton c).toUTF8.toList ++ percentDecode rest
  | [] => []

/-- Characters that no domain holds. -/
def isForbiddenInDomain (c : Char) : Bool :=
  c.toNat ≤ 0x20 || c.toNat == 0x7F || c.toNat == 0xFFFD
    || ['%', '#', '/', ':', '<', '>', '?', '@', '[', '\\', ']', '^', '|'].contains c

/-- The rule for the names of hosts: it brings a name into the form in which the network knows it,
and gives none for a text that is no name. The rule for all of Unicode rests on tables that are no
part of this library. So what depends on it takes any rule. -/
class HostNames where
  domain? (name : List Char) : Option (List Char)

/-- The rule for names of ASCII without encoded parts: letters in lower case. It leaves all other
names as they are. -/
instance (priority := low) asciiNames : HostNames where
  domain? name := if name.any isForbiddenInDomain then none else some (name.map Char.toLower)

/-- The domain that a host means, its bytes decoded. -/
def domain? [HostNames] (host : List Char) : Option (List Char) :=
  match String.fromUTF8? ⟨(percentDecode host).toArray⟩ with
  | none => none
  | some s => HostNames.domain? s.toList

/-- Characters that would end a host. -/
def isForbiddenInHost (c : Char) : Bool :=
  ['\x00', '\t', '\n', '\r', ' ', '#', '/', ':', '<', '>', '?', '@', '[', '\\', ']', '^',
    '|'].contains c

/-- Checks an address in brackets. -/
def checkBracketed (host : List Char) : Except UrlError Unit :=
  if host.getLast? = some ']' ∧ isIpv6 host.tail.dropLast then .ok () else .error .invalidIpv6

/-- Checks a host under a scheme with rules: it is an address or a domain. -/
def checkHost [HostNames] (host : List Char) : Except UrlError Unit :=
  if host.head? = some '[' then checkBracketed host
  else
    match domain? host with
    | none => .error .invalidDomainName
    | some [] => .error .emptyHost
    | some name => if endsInNumber name ∧ !isIpv4 name then .error .invalidIpv4 else .ok ()

/-- Checks a host under a scheme without rules. It may be empty. -/
def checkPlainHost (host : List Char) : Except UrlError Unit :=
  if host.head? = some '[' then checkBracketed host
  else if host.any isForbiddenInHost then .error .invalidDomainCharacter
  else .ok ()

end Url

end Downloads
