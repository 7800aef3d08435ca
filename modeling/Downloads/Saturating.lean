/-!
# Saturating integers

Times, sizes and delays are integers of 64 bits. A sum, difference or product that leaves
their range stops at the nearer end.
-/

namespace Downloads

def minInt64 : Int := -9223372036854775808

def maxInt64 : Int := 9223372036854775807

/-- The integer of 64 bits nearest to `n`. -/
def clamp64 (n : Int) : Int := max minInt64 (min maxInt64 n)

/-- The sum, stopped at the ends of the range. -/
def satAdd (a b : Int) : Int := clamp64 (a + b)

/-- The difference, stopped at the ends of the range. -/
def satSub (a b : Int) : Int := clamp64 (a - b)

/-- The product, stopped at the ends of the range. -/
def satMul (a b : Int) : Int := clamp64 (a * b)

/-- The power of two, stopped at the upper end. Exponents can have 32 bits, so the power itself is
taken only where it fits. -/
def satPow2 (e : Nat) : Int := if e < 63 then (Nat.pow 2 e : Nat) else maxInt64

theorem clamp64_le (n : Int) : clamp64 n ≤ maxInt64 := by
  simp only [clamp64, minInt64, maxInt64]
  omega

end Downloads
