/-!
# Dictionaries

A finite map from texts, kept as pairs of distinct keys in the order of their last writing. All
that is known of a dictionary is what `find?` says.
-/

namespace Downloads

/-- A finite map from texts. -/
structure Dict (α : Type) where
  entries : List (String × α)
  deriving Repr, DecidableEq

namespace Dict

variable {α : Type}

def empty : Dict α := ⟨[]⟩

def find? (d : Dict α) (key : String) : Option α := d.entries.lookup key

def contains (d : Dict α) (key : String) : Bool := (d.find? key).isSome

/-- The dictionary without a key. -/
def erase (d : Dict α) (key : String) : Dict α := ⟨d.entries.filter fun e => key != e.1⟩

/-- The dictionary in which a key has the given value. -/
def insert (d : Dict α) (key : String) (value : α) : Dict α :=
  ⟨(d.erase key).entries ++ [(key, value)]⟩

/-- The dictionary of the pairs, of which later ones replace earlier ones. -/
def ofList (pairs : List (String × α)) : Dict α :=
  pairs.foldl (fun d e => d.insert e.1 e.2) empty

theorem lookup_cons_eq (l : List (String × α)) (a k : String) (v : α) :
    ((a, v) :: l).lookup k = if k = a then some v else l.lookup k := by
  by_cases h : k = a
  · simp [h]
  · simp [List.lookup_cons, beq_eq_false_iff_ne.mpr h, h]

theorem lookup_filter_ne (l : List (String × α)) (key k : String) :
    (l.filter fun e => key != e.1).lookup k = if k = key then none else l.lookup k := by
  induction l with
  | nil => simp
  | cons e l ih =>
    obtain ⟨a, v⟩ := e
    by_cases ha : key = a <;> by_cases hk : k = key <;> grind [lookup_cons_eq]

theorem find?_erase (d : Dict α) (key k : String) :
    (d.erase key).find? k = if k = key then none else d.find? k :=
  lookup_filter_ne d.entries key k

theorem lookup_concat (l : List (String × α)) (key k : String) (v : α) :
    (l ++ [(key, v)]).lookup k = (l.lookup k).or (if k = key then some v else none) := by
  induction l with
  | nil => simp [lookup_cons_eq]
  | cons e l ih =>
    obtain ⟨a, w⟩ := e
    rw [List.cons_append, lookup_cons_eq, lookup_cons_eq, ih]
    by_cases h : k = a <;> simp [h]

theorem find?_insert (d : Dict α) (key k : String) (v : α) :
    (d.insert key v).find? k = if k = key then some v else d.find? k := by
  have h := lookup_concat (d.erase key).entries key k v
  have e := find?_erase d key k
  simp only [find?, insert] at *
  rw [h, e]
  by_cases hk : k = key <;> simp [hk]

end Dict

end Downloads
