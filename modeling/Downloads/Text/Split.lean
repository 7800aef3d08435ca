/-!
# Cutting texts

Parts between separators, and the two sides of the first separator.
-/

namespace Downloads.Text

/-- The parts between the characters that satisfy `p`: one more than there are such characters. -/
def splitAt (p : Char → Bool) : List Char → List (List Char)
  | [] => [[]]
  | c :: cs =>
    if p c then [] :: splitAt p cs
    else
      match splitAt p cs with
      | [] => [[c]]
      | part :: parts => (c :: part) :: parts

/-- What stands before and after the first `c`, if there is one. -/
def splitOnce (c : Char) (s : List Char) : Option (List Char × List Char) :=
  match s.dropWhile (· != c) with
  | [] => none
  | _ :: rest => some (s.takeWhile (· != c), rest)

theorem splitAt_ne_nil (p : Char → Bool) (s : List Char) : splitAt p s ≠ [] := by
  cases s with
  | nil => simp [splitAt]
  | cons c cs =>
    simp only [splitAt]
    split
    · simp
    · split <;> simp

theorem not_mem_of_mem_splitAt {p : Char → Bool} {s part : List Char} (h : part ∈ splitAt p s)
    {c : Char} (hc : c ∈ part) : p c = false := by
  induction s generalizing part with
  | nil =>
    obtain rfl : part = [] := by simpa [splitAt] using h
    exact absurd hc (List.not_mem_nil)
  | cons a s ih =>
    simp only [splitAt] at h
    split at h
    · rcases List.mem_cons.1 h with rfl | h
      · exact absurd hc (List.not_mem_nil)
      · exact ih h hc
    · rename_i ha
      split at h
      · rename_i hs
        exact absurd hs (splitAt_ne_nil p s)
      · rename_i x xs hs
        rcases List.mem_cons.1 h with rfl | h
        · rcases List.mem_cons.1 hc with rfl | hc
          · simpa using ha
          · exact ih (by rw [hs]; exact List.mem_cons_self) hc
        · exact ih (by rw [hs]; exact List.mem_cons_of_mem x h) hc

end Downloads.Text
