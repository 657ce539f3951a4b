/-!
# Tables

A table is a list of named entries in the order in which the names came.
`Table.set` keeps a name at its place, so the order tells which name came
first, and `List.lookup` reads an entry.
-/

namespace Redline

namespace Table

/-- The table with one entry set, at its place if it is there and at the end if
not. -/
def set {κ α : Type} [BEq κ] (name : κ) (value : α) : List (κ × α) → List (κ × α)
  | [] => [(name, value)]
  | e :: es => if e.1 == name then (e.1, value) :: es else e :: set name value es

@[simp] theorem lookup_set_self {κ α : Type} [BEq κ] [LawfulBEq κ] (name : κ) (value : α)
    (entries : List (κ × α)) : (set name value entries).lookup name = some value := by
  induction entries with
  | nil => simp [set]
  | cons e es ih =>
      obtain ⟨n, v⟩ := e
      by_cases h : n = name
      · simp [set, h]
      · simp [set, h, List.lookup_cons, beq_false_of_ne (Ne.symm h), ih]

/-- The other entries stay as they are. -/
theorem lookup_set_of_ne {κ α : Type} [BEq κ] [LawfulBEq κ] {name other : κ} (h : other ≠ name)
    (value : α) (entries : List (κ × α)) :
    (set name value entries).lookup other = entries.lookup other := by
  induction entries with
  | nil => simp [set, List.lookup_cons, beq_false_of_ne h]
  | cons e es ih =>
      obtain ⟨n, v⟩ := e
      by_cases hn : n = name
      · simp [set, hn, List.lookup_cons, beq_false_of_ne h]
      · simp [set, hn, List.lookup_cons, ih]

end Table

end Redline
