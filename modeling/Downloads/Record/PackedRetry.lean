/-!
# The packed retry field

One signed integer of 32 bits holds the wait that a server asked for and the number of redirects:
bits 0 to 27 the wait, bits 28 to 31 the redirects. Either part wraps when it is too large for its
bits.
-/

namespace Downloads.PackedRetry

/-- The number of bits below the redirect count. -/
def redirectShift : Nat := 28

/-- The number of waits that fit into the bits below the redirect count. -/
def waitCount : Nat := 268435456

def retryAfterMask : Nat := waitCount - 1

def maxRedirects : Nat := 15

def fieldCount : Nat := 4294967296

/-- The field for a wait and a redirect count. -/
def pack (retryAfter redirects : Nat) : Int :=
  Int.bmod (redirects % (maxRedirects + 1) * waitCount + retryAfter % waitCount : Nat) fieldCount

/-- The wait and the redirect count in the low 32 bits of an integer. -/
def unpack (field : Int) : Nat × Nat :=
  let bits := (field % fieldCount).toNat
  (bits % waitCount, bits / waitCount % (maxRedirects + 1))

theorem waitCount_eq_shiftLeft : waitCount = 1 <<< redirectShift := by decide

theorem unpack_pack (retryAfter redirects : Nat) :
    unpack (pack retryAfter redirects) =
      (retryAfter % waitCount, redirects % (maxRedirects + 1)) := by
  simp only [unpack, pack, Int.bmod_emod, waitCount, maxRedirects, fieldCount, Prod.mk.injEq]
  omega

end Downloads.PackedRetry
