/-!
Elements and slices addressed by integers, where a negative number counts from the end.
-/

namespace InputDeck

namespace Slice

def boundary (size : Nat) (bound : Int) : Nat :=
  if bound < 0 then (bound + size).toNat else min bound.toNat size

def between (items : List α) (start stop : Int) : List α :=
  (items.take (boundary items.length stop)).drop (boundary items.length start)

def since (items : List α) (start : Int) : List α :=
  items.drop (boundary items.length start)

def upTo (items : List α) (stop : Int) : List α :=
  items.take (boundary items.length stop)

def get? (items : List α) (index : Int) : Option α :=
  let place := if index < 0 then index + items.length else index
  if place < 0 then none else items[place.toNat]?

inductive Miss where
  | outside
  | oversized
deriving DecidableEq, Repr

def Miss.message : Miss → String
  | outside => "list index out of range"
  | oversized => "cannot fit 'int' into an index-sized integer"

/-- Whether an index is one of the numbers that can count elements, or the opposite of one. -/
def isIndex (index : Int) : Bool :=
  -9223372036854775808 ≤ index && index ≤ 9223372036854775807

def element (items : List α) (index : Int) : Except Miss α :=
  match get? items index with
  | some item => .ok item
  | none => .error (if isIndex index then .outside else .oversized)

@[simp]
theorem boundary_ofNat (size n : Nat) : boundary size n = min n size := by
  have nonneg : ¬((n : Int) < 0) := by omega
  simp [boundary, nonneg]

@[simp]
theorem get?_ofNat (items : List α) (n : Nat) : get? items n = items[n]? := by
  have nonneg : ¬((n : Int) < 0) := by omega
  simp [get?, nonneg]

@[simp]
theorem upTo_ofNat (items : List α) (n : Nat) : upTo items n = items.take n := by
  simp [upTo]

@[simp]
theorem since_ofNat (items : List α) (n : Nat) : since items n = items.drop n := by
  by_cases within : n ≤ items.length
  · simp [since, Nat.min_eq_left within]
  · simp [since, Nat.min_eq_right (Nat.le_of_not_le within),
      List.drop_eq_nil_of_le (Nat.le_of_not_le within)]

end Slice

end InputDeck
