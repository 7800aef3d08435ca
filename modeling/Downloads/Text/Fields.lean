import Downloads.Text.Integer

/-!
# Fields

Texts one after the other, each behind its length and a colon. Any characters may stand in a
field, so fields can hold fields.
-/

namespace Downloads.Text.Fields

/-- One field. -/
def writeField (s : List Char) : List Char := digits s.length ++ ':' :: s

/-- The text that holds fields. -/
def write (fields : List (List Char)) : List Char := fields.flatMap writeField

/-- The first field and what follows it. -/
def readField? (s : List Char) : Option (List Char × List Char) :=
  match s.dropWhile Char.isDigit with
  | ':' :: rest =>
    let n := digitsValue (s.takeWhile Char.isDigit)
    if n ≤ rest.length then some (rest.take n, rest.drop n) else none
  | _ => none

/-- A field is followed by less than it was read from. -/
theorem length_lt_of_readField? {s field rest : List Char}
    (h : readField? s = some (field, rest)) : rest.length < s.length := by
  have hs := (List.dropWhile_sublist Char.isDigit (l := s)).length_le
  simp only [readField?] at h
  split at h
  · next tail heq =>
    split at h
    · simp only [Option.some.injEq, Prod.mk.injEq] at h
      rw [heq] at hs
      simp only [← h.2, List.length_cons, List.length_drop] at *
      omega
    · simp at h
  · simp at h

/-- The fields that a text holds. -/
def read? (s : List Char) : Option (List (List Char)) :=
  if s = [] then some []
  else
    match _h : readField? s with
    | none => none
    | some (field, rest) => (read? rest).map (field :: ·)
termination_by s.length
decreasing_by exact length_lt_of_readField? (by assumption)

/-! ## Reading what was written -/

theorem takeWhile_isDigit_digits (n : Nat) (s : List Char) :
    (digits n ++ ':' :: s).takeWhile Char.isDigit = digits n := by
  rw [List.takeWhile_append_of_pos (isDigit_of_mem_digits n), List.takeWhile_cons]
  exact List.append_nil _

theorem dropWhile_isDigit_digits (n : Nat) (s : List Char) :
    (digits n ++ ':' :: s).dropWhile Char.isDigit = ':' :: s := by
  rw [List.dropWhile_append_of_pos (isDigit_of_mem_digits n), List.dropWhile_cons]
  rfl

theorem readField?_writeField (field rest : List Char) :
    readField? (writeField field ++ rest) = some (field, rest) := by
  have happend : writeField field ++ rest = digits field.length ++ ':' :: (field ++ rest) := by
    simp [writeField]
  rw [happend, readField?, takeWhile_isDigit_digits, dropWhile_isDigit_digits]
  simp [digitsValue_digits]

/-- Reading gives back the fields that were written. -/
theorem read?_write (fields : List (List Char)) : read? (write fields) = some fields := by
  induction fields with
  | nil => rw [write, List.flatMap_nil, read?, if_pos rfl]
  | cons field fields ih =>
    have hne : writeField field ++ write fields ≠ [] := by simp [writeField]
    have hcons : write (field :: fields) = writeField field ++ write fields := by simp [write]
    rw [hcons, read?, if_neg hne]
    split
    · next h => simp [readField?_writeField] at h
    · next h =>
      rw [readField?_writeField, Option.some.injEq, Prod.mk.injEq] at h
      rw [← h.1, ← h.2, ih]
      rfl

end Downloads.Text.Fields
