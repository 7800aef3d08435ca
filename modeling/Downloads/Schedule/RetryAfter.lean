import Downloads.Schedule.HttpDate

/-!
# Retry-After

What a server means by a `Retry-After` header: a number of seconds, or a date. The wait that is
kept lies between half a minute and a day.
-/

namespace Downloads.RetryAfter

def minSeconds : Nat := 30

def maxSeconds : Nat := 24 * 60 * 60

/-- The nearest wait that is kept. -/
def clamp (seconds : Nat) : Nat := max minSeconds (min maxSeconds seconds)

def nanosPerSecond : Int := 1000000000

/-- The time left until a date, in whole seconds, or none if it is over. Instants are nanoseconds
since the start of 1970. -/
def remaining? (date : HttpDate) (nowNanos : Int) : Option Nat :=
  let left := date.toUnixSeconds * nanosPerSecond - nowNanos
  if 0 ≤ left then some (left / nanosPerSecond).toNat else none

/-- The wait in seconds that a header asks for, or none if it is unreadable, negative or over. -/
def parse (header : String) (nowNanos : Int) : Option Nat :=
  let s := Text.trimBoth Text.isBlank header.toList
  match Text.parseInteger 64 s with
  | .ok n => if n < 0 then none else some (clamp n.toNat)
  | .error _ =>
    match HttpDate.parse s with
    | none => none
    | some date => (remaining? date nowNanos).map clamp

/-- Whether a header is a number of seconds or a date. -/
def isReadable (s : List Char) : Bool :=
  (Text.parseInteger 64 s).isOk || (HttpDate.parse s).isSome

theorem clamp_mem (n : Nat) : minSeconds ≤ clamp n ∧ clamp n ≤ maxSeconds := by
  simp only [clamp, minSeconds, maxSeconds]
  omega

end Downloads.RetryAfter
