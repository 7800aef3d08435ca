import Downloads.Record.PackedRetry
import Mathlib.Data.Nat.Bitwise

/-!
# The packed field in machine words

The same field once more, with the operations of words: two masks and a shift write it, a mask and
a shift that copies the sign read it, and the column of 64 bits that stores it is cut to its low 32
bits before. These words denote what `pack` and `unpack` give (`toInt_packWord`,
`counts_unpackWord`, `counts_unpackColumn`), so what is proved of the numbers holds of the bits.
Main statement: fields and the pairs that fit them correspond one to one, and a column counts by its
low word alone (`field_roundtrips`).
-/

namespace Downloads.PackedRetry

/-! ## The numbers -/

theorem unpack_bmod (n : Int) : unpack (Int.bmod n fieldCount) = unpack n := by
  rw [unpack, unpack, Int.bmod_emod]

/-- Packing what was read of an integer leaves its low 32 bits, with their sign. -/
theorem pack_unpack (n : Int) : pack (unpack n).1 (unpack n).2 = Int.bmod n fieldCount := by
  have hbits : ((unpack n).2 % (maxRedirects + 1) * waitCount + (unpack n).1 % waitCount : Nat) =
      n % fieldCount := by
    simp only [unpack, fieldCount, waitCount, maxRedirects]
    omega
  rw [pack, hbits, Int.emod_bmod]

/-- Two integers are read alike if and only if they have the same low 32 bits. -/
theorem unpack_eq_unpack_iff {m n : Int} :
    unpack m = unpack n ↔ Int.bmod m fieldCount = Int.bmod n fieldCount := by
  constructor
  · intro h
    rw [← pack_unpack m, ← pack_unpack n, h]
  · intro h
    rw [← unpack_bmod m, ← unpack_bmod n, h]

/-! ## The words -/

/-- The bits of the wait. -/
def waitMask : UInt32 := 0x0FFFFFFF

/-- The field with the low bits of both parts, those of the redirects on top. -/
def packWord (wait : UInt32) (redirects : UInt8) : Int32 :=
  ((redirects &&& 0xF).toUInt32 <<< 28 ||| wait &&& waitMask).toInt32

/-- The byte with the value of a word. A word beyond a byte counts as the most redirects. -/
def redirectByte (n : Int32) : UInt8 :=
  if 0 ≤ n ∧ n ≤ 255 then n.toUInt32.toUInt8 else 0xF

/-- The wait and the redirect count of a field. The shift copies the sign into the bits above the
redirects, and the mask takes them away again. -/
def unpackWord (field : Int32) : UInt32 × UInt8 :=
  (field.toUInt32 &&& waitMask, redirectByte (field >>> 28 &&& 0xF))

/-- The low 32 bits of a column. -/
def lowWord (column : Int64) : UInt32 :=
  let low := column &&& 0xFFFFFFFF
  if 0 ≤ low ∧ low ≤ 0xFFFFFFFF then low.toUInt64.toUInt32 else 0

/-- The wait and the redirect count of a column. -/
def unpackColumn (column : Int64) : UInt32 × UInt8 := unpackWord (lowWord column).toInt32

/-- The numbers that the words of a wait and a redirect count denote. -/
def counts (parts : UInt32 × UInt8) : Nat × Nat := (parts.1.toNat, parts.2.toNat)

/-! ## What the words denote -/

theorem toNat_and_waitMask (word : UInt32) : (word &&& waitMask).toNat = word.toNat % waitCount :=
  (UInt32.toNat_and word waitMask).trans (Nat.and_two_pow_sub_one_eq_mod word.toNat 28)

theorem toNat_and_redirectMask (redirects : UInt8) :
    (redirects &&& 0xF).toNat = redirects.toNat % (maxRedirects + 1) :=
  (UInt8.toNat_and redirects 0xF).trans (Nat.and_two_pow_sub_one_eq_mod redirects.toNat 4)

/-- The bits of a word, read with a sign. -/
theorem toInt_toInt32 (word : UInt32) : word.toInt32.toInt = Int.bmod word.toNat fieldCount :=
  BitVec.toInt_eq_toNat_bmod word.toBitVec

theorem toInt_bmod (field : Int32) : Int.bmod field.toInt fieldCount = field.toInt :=
  BitVec.toInt_bmod_cancel field.toBitVec

/-- The bits of a field, read without the sign. -/
theorem toNat_toUInt32 (field : Int32) :
    (field.toUInt32.toNat : Int) = field.toInt % fieldCount := by
  have hlt : field.toUInt32.toNat < fieldCount := field.toUInt32.toNat_lt
  have hfield : field.toInt = Int.bmod field.toUInt32.toNat fieldCount :=
    toInt_toInt32 field.toUInt32
  rw [hfield, Int.bmod_emod, Int.emod_eq_of_lt (by omega) (by omega)]

/-- Both parts keep to their own bits, so writing one over the other adds them. -/
theorem toInt_packWord (wait : UInt32) (redirects : UInt8) :
    (packWord wait redirects).toInt = pack wait.toNat redirects.toNat := by
  have hlow : wait.toNat % waitCount < 2 ^ 28 := Nat.mod_lt _ (by decide)
  have hhigh : ((redirects &&& 0xF).toUInt32 <<< 28).toNat =
      (redirects.toNat % (maxRedirects + 1)) <<< 28 := by
    rw [UInt32.toNat_shiftLeft, UInt8.toNat_toUInt32, toNat_and_redirectMask]
    refine Nat.mod_eq_of_lt ?_
    simp only [maxRedirects, UInt32.reduceToNat, Nat.reduceMod, Nat.shiftLeft_eq]
    omega
  have hbits : ((redirects &&& 0xF).toUInt32 <<< 28 ||| wait &&& waitMask).toNat =
      redirects.toNat % (maxRedirects + 1) * waitCount + wait.toNat % waitCount := by
    rw [UInt32.toNat_or, hhigh, toNat_and_waitMask, ← Nat.shiftLeft_add_eq_or_of_lt hlow,
      Nat.shiftLeft_eq]
    rfl
  rw [packWord, toInt_toInt32, hbits, pack]

/-- The bits that the shift copies from the sign do not reach the four of the redirects. -/
theorem toNat_shifted (field : Int32) :
    (field >>> 28 &&& 0xF).toUInt32.toNat = field.toUInt32.toNat / waitCount := by
  have hshift : (field >>> 28).toInt = field.toInt >>> (28 : Nat) := BitVec.toInt_sshiftRight
  have hmask : (field >>> 28 &&& 0xF).toUInt32.toNat = (field >>> 28).toUInt32.toNat % 2 ^ 4 :=
    (UInt32.toNat_and _ _).trans (Nat.and_two_pow_sub_one_eq_mod _ 4)
  have hshifted := toNat_toUInt32 (field >>> 28)
  have hfield := toNat_toUInt32 field
  rw [hshift, Int.shiftRight_eq_div_pow] at hshifted
  simp only [fieldCount, waitCount] at *
  omega

theorem toNat_redirectByte {n : Int32} (h : n.toUInt32.toNat ≤ 255) :
    (redirectByte n).toNat = n.toUInt32.toNat := by
  have hvalue : n.toInt = n.toUInt32.toNat := by
    have hsigned : n.toInt = Int.bmod n.toUInt32.toNat fieldCount := toInt_toInt32 n.toUInt32
    rw [hsigned]
    exact Int.bmod_eq_of_le (by omega) (by simp only [fieldCount]; omega)
  have hbyte : 0 ≤ n ∧ n ≤ 255 := by
    rw [Int32.le_iff_toInt_le, Int32.le_iff_toInt_le, hvalue]
    exact ⟨Int.natCast_nonneg _, Int.ofNat_le.mpr h⟩
  rw [redirectByte, if_pos hbyte, UInt32.toNat_toUInt8]
  exact Nat.mod_eq_of_lt (by omega)

theorem counts_unpackWord (field : Int32) : counts (unpackWord field) = unpack field.toInt := by
  have hword := field.toUInt32.toNat_lt
  have hbits : (field.toInt % fieldCount).toNat = field.toUInt32.toNat := by
    rw [← toNat_toUInt32, Int.toNat_natCast]
  have htop : field.toUInt32.toNat / waitCount < maxRedirects + 1 :=
    Nat.div_lt_of_lt_mul hword
  have hbyte : (redirectByte (field >>> 28 &&& 0xF)).toNat = field.toUInt32.toNat / waitCount := by
    rw [toNat_redirectByte, toNat_shifted]
    rw [toNat_shifted]
    exact (Nat.le_of_lt_succ htop).trans (by decide)
  simp only [counts, unpackWord, unpack, hbits, hbyte, toNat_and_waitMask, Nat.mod_eq_of_lt htop]

theorem toInt_toInt64 (bits : UInt64) : bits.toInt64.toInt = Int.bmod bits.toNat (2 ^ 64) :=
  BitVec.toInt_eq_toNat_bmod bits.toBitVec

/-- A word of 32 bits in 64 has no sign. -/
theorem toInt_toInt64_of_lt {bits : UInt64} (h : bits.toNat < fieldCount) :
    bits.toInt64.toInt = bits.toNat := by
  simp only [fieldCount] at h
  rw [toInt_toInt64]
  exact Int.bmod_eq_of_le (by omega) (by omega)

/-- Cutting a column keeps its low 32 bits, whatever its sign. -/
theorem toNat_lowWord (column : Int64) :
    ((lowWord column).toNat : Int) = column.toInt % fieldCount := by
  have hlow : (column &&& 0xFFFFFFFF).toUInt64.toNat = column.toUInt64.toNat % fieldCount :=
    (UInt64.toNat_and _ _).trans (Nat.and_two_pow_sub_one_eq_mod _ 32)
  have hlt : column.toUInt64.toNat % fieldCount < fieldCount := Nat.mod_lt _ (by decide)
  have hvalue : (column &&& 0xFFFFFFFF).toInt = (column.toUInt64.toNat % fieldCount : Nat) := by
    rw [← hlow] at hlt ⊢
    exact toInt_toInt64_of_lt hlt
  have hword : 0 ≤ column &&& 0xFFFFFFFF ∧ column &&& 0xFFFFFFFF ≤ 0xFFFFFFFF := by
    rw [Int64.le_iff_toInt_le, Int64.le_iff_toInt_le, hvalue]
    exact ⟨Int.natCast_nonneg _, Int.ofNat_le.mpr (Nat.le_of_lt_succ hlt)⟩
  have hcolumn : column.toInt = Int.bmod column.toUInt64.toNat (2 ^ 64) :=
    toInt_toInt64 column.toUInt64
  have hdvd : (fieldCount : Int) ∣ (2 ^ 64 : Nat) := ⟨fieldCount, rfl⟩
  calc ((lowWord column).toNat : Int) = (column.toUInt64.toNat % fieldCount : Nat) := by
        rw [lowWord, if_pos hword, UInt64.toNat_toUInt32, hlow]
        exact congrArg Nat.cast (Nat.mod_mod column.toUInt64.toNat fieldCount)
    _ = column.toUInt64.toNat % fieldCount := Int.natCast_mod _ _
    _ = column.toInt % fieldCount := by
        rw [hcolumn, ← Int.emod_emod_of_dvd (Int.bmod _ _) hdvd, Int.bmod_emod,
          Int.emod_emod_of_dvd _ hdvd]

theorem counts_unpackColumn (column : Int64) :
    counts (unpackColumn column) = unpack column.toInt := by
  rw [unpackColumn, counts_unpackWord, toInt_toInt32, toNat_lowWord, Int.emod_bmod, unpack_bmod]

/-! ## Fields and their parts -/

/-- **Packed fields.** The program's packing and reading are those of the words. Reading a packed
field gives back both parts, cut to their 28 and 4 bits, and packing what was read of a field gives
back the field. A column is read as the field in its low 32 bits, and no other bit matters: two
columns are read alike if and only if they have the same field, so a field may be stored with its
sign or without. -/
theorem field_roundtrips :
    (∀ (wait : UInt32) (redirects : UInt8),
      pack wait.toNat redirects.toNat = (packWord wait redirects).toInt ∧
      unpack (pack wait.toNat redirects.toNat) =
        (wait.toNat % 2 ^ 28, redirects.toNat % 16)) ∧
    (∀ field : Int32,
      unpack field.toInt = counts (unpackWord field) ∧
      pack (unpack field.toInt).1 (unpack field.toInt).2 = field.toInt) ∧
    (∀ column : Int64,
      unpack column.toInt = counts (unpackColumn column) ∧
      unpack column.toInt = unpack column.toInt32.toInt) ∧
    (∀ column column' : Int64,
      unpack column.toInt = unpack column'.toInt ↔ column.toInt32 = column'.toInt32) ∧
    ∀ field : Int32,
      unpack field.toInt64.toInt = unpack field.toInt ∧
      unpack field.toUInt32.toUInt64.toInt64.toInt = unpack field.toInt := by
  refine ⟨fun wait redirects => ⟨(toInt_packWord wait redirects).symm, unpack_pack _ _⟩,
    fun field => ⟨(counts_unpackWord field).symm, ?_⟩,
    fun column => ⟨(counts_unpackColumn column).symm, ?_⟩, fun column column' => ?_,
    fun field => ⟨?_, ?_⟩⟩
  · rw [pack_unpack, toInt_bmod]
  · rw [Int64.toInt_toInt32]
    exact (unpack_bmod column.toInt).symm
  · rw [unpack_eq_unpack_iff, ← Int32.toInt_inj, Int64.toInt_toInt32, Int64.toInt_toInt32]
    rfl
  · rw [Int32.toInt_toInt64]
  · have hstored : field.toUInt32.toUInt64.toInt64.toInt = field.toUInt32.toNat :=
      toInt_toInt64_of_lt field.toUInt32.toNat_lt
    rw [hstored, toNat_toUInt32, unpack, unpack, Int.emod_emod_of_dvd _ (dvd_refl _)]

end Downloads.PackedRetry
