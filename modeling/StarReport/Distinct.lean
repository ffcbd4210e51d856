/-!
Lists without repeats. Elements are compared through a key: an element whose key is already
present is left out, and one that is new goes to the end, so a list built this way holds the
first occurrence of each key in the order in which the keys first came.
-/

set_option autoImplicit false
set_option relaxedAutoImplicit false

namespace StarReport.Distinct

variable {α κ : Type} [DecidableEq κ]

/-- Append an element unless one with the same key is already there. -/
def insert (key : α → κ) (xs : List α) (x : α) : List α :=
  if key x ∈ xs.map key then xs else xs ++ [x]

/-- The first occurrence of each key, in order. -/
def ofList (key : α → κ) (xs : List α) : List α :=
  xs.foldl (insert key) []

theorem insert_of_mem {key : α → κ} {xs : List α} {x : α} (present : key x ∈ xs.map key) :
    insert key xs x = xs := if_pos present

theorem insert_of_not_mem {key : α → κ} {xs : List α} {x : α} (fresh : key x ∉ xs.map key) :
    insert key xs x = xs ++ [x] := if_neg fresh

theorem mem_map_insert {key : α → κ} {xs : List α} {x : α} {k : κ} :
    k ∈ (insert key xs x).map key ↔ k ∈ xs.map key ∨ k = key x := by
  unfold insert
  split
  · constructor
    · exact Or.inl
    · rintro (present | rfl) <;> assumption
  · simp [or_comm, eq_comm]

end StarReport.Distinct
