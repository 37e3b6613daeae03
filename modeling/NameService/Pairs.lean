/-!
Lists of pairs read as dictionaries: a key has one value, and keys keep the order in which they
first came.
-/

namespace NameService.Pairs

variable {κ α : Type} [BEq κ]

/-- A pair in the place of an older one with its key, or after all others. -/
def insert (key : κ) (value : α) : List (κ × α) → List (κ × α)
  | [] => [(key, value)]
  | (k, v) :: rest => if k == key then (key, value) :: rest else (k, v) :: insert key value rest

theorem lookup_insert_self [LawfulBEq κ] (key : κ) (value : α) (pairs : List (κ × α)) :
    (insert key value pairs).lookup key = some value := by
  induction pairs with
  | nil => simp [insert]
  | cons pair rest ih =>
    obtain ⟨k, v⟩ := pair
    by_cases here : k = key
    · simp [insert, here]
    · have other : (key == k) = false := by simpa using Ne.symm here
      simp [insert, here, List.lookup_cons, other, ih]

theorem lookup_insert_of_ne [LawfulBEq κ] {key other : κ} (ne : other ≠ key) (value : α)
    (pairs : List (κ × α)) : (insert key value pairs).lookup other = pairs.lookup other := by
  induction pairs with
  | nil =>
    have differs : (other == key) = false := by simpa using ne
    simp [insert, List.lookup_cons, differs]
  | cons pair rest ih =>
    obtain ⟨k, v⟩ := pair
    by_cases here : k = key
    · have differs : (other == key) = false := by simpa using ne
      simp [insert, here, List.lookup_cons, differs]
    · simp [insert, here, List.lookup_cons, ih]

theorem mem_of_mem_insert {key : κ} {value : α} {pair : κ × α} {pairs : List (κ × α)}
    (member : pair ∈ insert key value pairs) : pair = (key, value) ∨ pair ∈ pairs := by
  induction pairs with
  | nil => simpa [insert] using member
  | cons first rest ih =>
    rw [insert] at member
    split at member
    · rcases List.mem_cons.mp member with new | old
      · exact Or.inl new
      · exact Or.inr (.tail _ old)
    · rcases List.mem_cons.mp member with same | later
      · exact Or.inr (same ▸ .head _)
      · exact (ih later).imp_right (.tail _)

theorem length_insert_le (key : κ) (value : α) (pairs : List (κ × α)) :
    (insert key value pairs).length ≤ pairs.length + 1 := by
  induction pairs with
  | nil => simp [insert]
  | cons first rest ih =>
    rw [insert]
    split
    · simp
    · simpa using ih

end NameService.Pairs
