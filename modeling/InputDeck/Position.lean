/-!
Positions in a document: a row and a column, both counted from zero.  They are integers because
a caller may ask about a place outside the document.
-/

namespace InputDeck

structure Position where
  row : Int
  column : Int
deriving DecidableEq, Repr

namespace Position

instance : LT Position :=
  ⟨fun a b => a.row < b.row ∨ (a.row = b.row ∧ a.column < b.column)⟩

instance : LE Position :=
  ⟨fun a b => a.row < b.row ∨ (a.row = b.row ∧ a.column ≤ b.column)⟩

theorem lt_def (a b : Position) :
    a < b ↔ a.row < b.row ∨ (a.row = b.row ∧ a.column < b.column) := Iff.rfl

theorem le_def (a b : Position) :
    a ≤ b ↔ a.row < b.row ∨ (a.row = b.row ∧ a.column ≤ b.column) := Iff.rfl

instance (a b : Position) : Decidable (a < b) :=
  decidable_of_iff _ (lt_def a b).symm

instance (a b : Position) : Decidable (a ≤ b) :=
  decidable_of_iff _ (le_def a b).symm

theorem le_refl (a : Position) : a ≤ a := by
  simp [le_def]

theorem le_trans {a b c : Position} (first : a ≤ b) (second : b ≤ c) : a ≤ c := by
  simp only [le_def] at *
  omega

theorem le_of_lt {a b : Position} (before : a < b) : a ≤ b := by
  simp only [lt_def, le_def] at *
  omega

theorem le_total (a b : Position) : a ≤ b ∨ b ≤ a := by
  simp only [le_def]
  omega

theorem not_lt {a b : Position} : ¬ a < b ↔ b ≤ a := by
  simp only [lt_def, le_def]
  omega

def render (position : Position) : String :=
  s!"({position.row}, {position.column})"

end Position

end InputDeck
