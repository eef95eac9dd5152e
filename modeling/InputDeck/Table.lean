import InputDeck.Text.Basic

/-!
Values by name, in the order in which the names were first set.
-/

namespace InputDeck

abbrev Table (α : Type) := List (Text × α)

namespace Table

/-- Sets an entry; one that is there keeps its place. -/
def set (name : Text) (value : α) : Table α → Table α
  | [] => [(name, value)]
  | (other, old) :: rest =>
      if other = name then (other, value) :: rest else (other, old) :: set name value rest

theorem lookup_set_self (name : Text) (value : α) (table : Table α) :
    List.lookup name (table.set name value) = some value := by
  induction table with
  | nil => simp [set]
  | cons entry rest ih =>
      obtain ⟨other, old⟩ := entry
      by_cases same : other = name
      · simp [set, same]
      · have differs : (name == other) = false := by simp [Ne.symm same]
        simp [set, same, List.lookup_cons, differs, ih]

theorem lookup_set_of_ne {name other : Text} (differs : other ≠ name) (value : α)
    (table : Table α) :
    List.lookup other (table.set name value) = List.lookup other table := by
  have unequal : (other == name) = false := by simp [differs]
  induction table with
  | nil => simp [set, List.lookup_cons, unequal]
  | cons entry rest ih =>
      obtain ⟨head, old⟩ := entry
      by_cases same : head = name
      · simp [set, same, List.lookup_cons, unequal]
      · simp [set, same, List.lookup_cons, ih]

theorem keys_set (name : Text) (value : α) (table : Table α) :
    (table.set name value).map Prod.fst =
      if name ∈ table.map Prod.fst then table.map Prod.fst else table.map Prod.fst ++ [name] := by
  induction table with
  | nil => rfl
  | cons entry rest ih =>
      obtain ⟨other, old⟩ := entry
      by_cases same : other = name
      · simp [set, same]
      · rw [set, if_neg same, List.map_cons, ih, List.map_cons]
        by_cases later : name ∈ rest.map Prod.fst
        · rw [if_pos later, if_pos (List.mem_cons_of_mem _ later)]
        · rw [if_neg later, if_neg (by simpa [Ne.symm same] using later), List.cons_append]

theorem mem_of_mem_set {name : Text} {value : α} {entry : Text × α} {table : Table α}
    (member : entry ∈ table.set name value) : entry = (name, value) ∨ entry ∈ table := by
  induction table with
  | nil => exact .inl (List.mem_singleton.mp member)
  | cons first rest ih =>
      obtain ⟨other, old⟩ := first
      by_cases same : other = name
      · rw [set, if_pos same, same] at member
        exact (List.mem_cons.mp member).imp id (List.mem_cons_of_mem _)
      · rw [set, if_neg same] at member
        rcases List.mem_cons.mp member with here | later
        · exact .inr (here ▸ List.mem_cons_self)
        · exact (ih later).imp id (List.mem_cons_of_mem _)

theorem mem_of_lookup {name : Text} {value : α} {table : Table α}
    (found : List.lookup name table = some value) : (name, value) ∈ table := by
  obtain ⟨before, after, whole, -⟩ := List.lookup_eq_some_iff.mp found
  exact whole ▸ List.mem_append_right before List.mem_cons_self

theorem lookup_eq_some_iff_mem {name : Text} {value : α} {table : Table α}
    (distinct : (table.map Prod.fst).Nodup) :
    List.lookup name table = some value ↔ (name, value) ∈ table := by
  refine ⟨mem_of_lookup, fun member => ?_⟩
  induction table with
  | nil => cases member
  | cons entry rest ih =>
      obtain ⟨fresh, later⟩ := List.nodup_cons.mp distinct
      rcases List.mem_cons.mp member with rfl | member
      · exact List.lookup_cons_self
      · have differs : (name == entry.1) = false :=
          beq_false_of_ne fun same => fresh (same ▸ List.mem_map_of_mem member)
        rw [List.lookup_cons, differs]
        exact ih later member

end Table

end InputDeck
