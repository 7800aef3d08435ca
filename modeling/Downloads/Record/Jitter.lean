/-!
# Jitter

Every record that is built gets a random number from 0 to 1000, which spreads the retries of
downloads that failed together. Randomness is a list of words of 32 bits; past its end every word
is zero.
-/

namespace Downloads

/-- A source of random words. -/
structure RandomWords where
  /-- The words to come. -/
  pending : List UInt32
  /-- How many words were taken. -/
  used : Nat := 0
  deriving Repr, DecidableEq

namespace RandomWords

def maxJitter : Nat := 1000

def wordCount : Nat := 4294967296

/-- The largest remainder for which a word is accepted: up to here, every jitter has equally many
words. -/
def acceptZone : Nat := (wordCount - 1) - (wordCount - (maxJitter + 1)) % (maxJitter + 1)

/-- Takes words until one is accepted, and scales that one. -/
def drawFrom : List UInt32 → Nat → Nat × RandomWords
  | [], used => (0, ⟨[], used + 1⟩)
  | v :: vs, used =>
    let m := v.toNat * (maxJitter + 1)
    if m % wordCount ≤ acceptZone then (m / wordCount, ⟨vs, used + 1⟩) else drawFrom vs (used + 1)

/-- The next jitter, and the source after it. -/
def drawJitter (w : RandomWords) : Nat × RandomWords := drawFrom w.pending w.used

theorem drawFrom_le (vs : List UInt32) (used : Nat) : (drawFrom vs used).1 ≤ maxJitter := by
  induction vs generalizing used with
  | nil => simp [drawFrom]
  | cons v vs ih =>
    simp only [drawFrom]
    split
    · have h := v.toNat_lt
      simp only [maxJitter, wordCount]
      omega
    · exact ih (used + 1)

theorem drawJitter_le (w : RandomWords) : w.drawJitter.1 ≤ maxJitter := drawFrom_le _ _

end RandomWords

end Downloads
