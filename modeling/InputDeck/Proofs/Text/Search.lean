import InputDeck.Text.Basic
import Mathlib.Data.List.Infix

/-!
Places of a piece in a text.  A search from the left finds the first of them and a search from the
right the last one.  The places of a piece that does not start anew within itself lie apart, so that
it is not found across its own ends.
-/

namespace InputDeck

namespace Text

/-- The piece stands in the text behind `column` characters. -/
def StandsAt (piece : Text) (column : Nat) (text : Text) : Prop :=
  ∃ before after, text = before ++ piece ++ after ∧ before.length = column

section StandsAt

variable {piece text first second : Text} {column : Nat}

theorem standsAt_iff :
    StandsAt piece column text ↔ column ≤ text.length ∧ piece <+: text.drop column := by
  constructor
  · rintro ⟨before, after, rfl, rfl⟩
    refine ⟨by simp, after, ?_⟩
    rw [List.append_assoc, List.drop_left]
  · rintro ⟨within, after, whole⟩
    refine ⟨text.take column, after, ?_, List.length_take_of_le within⟩
    rw [List.append_assoc, whole, List.take_append_drop]

theorem standsAt_nil : StandsAt piece column [] ↔ column = 0 ∧ piece = [] := by
  simp [standsAt_iff]

theorem standsAt_zero : StandsAt piece 0 text ↔ piece <+: text := by
  simp [standsAt_iff]

theorem standsAt_cons_succ {c : Char} :
    StandsAt piece (column + 1) (c :: text) ↔ StandsAt piece column text := by
  simp [standsAt_iff]

theorem StandsAt.trans {inner : Text} {offset : Nat} (outer : StandsAt piece column text)
    (stands : StandsAt inner offset piece) : StandsAt inner (column + offset) text := by
  obtain ⟨before, after, rfl, rfl⟩ := outer
  obtain ⟨front, back, rfl, rfl⟩ := stands
  exact ⟨before ++ front, back ++ after, by simp, by simp⟩

theorem StandsAt.isInfix (stands : StandsAt piece column text) : piece <:+: text := by
  obtain ⟨before, after, rfl, rfl⟩ := stands
  exact ⟨before, after, rfl⟩

theorem StandsAt.of_append_left (stands : StandsAt piece column (first ++ second))
    (within : column + piece.length ≤ first.length) : StandsAt piece column first := by
  rw [standsAt_iff] at stands ⊢
  obtain ⟨-, starts⟩ := stands
  rw [List.drop_append_of_le_length (by omega)] at starts
  refine ⟨by omega, List.prefix_of_prefix_length_le starts (List.prefix_append _ _) ?_⟩
  rw [List.length_drop]
  omega

theorem StandsAt.of_append_right (stands : StandsAt piece column (first ++ second))
    (behind : first.length ≤ column) : StandsAt piece (column - first.length) second := by
  rw [standsAt_iff] at stands ⊢
  obtain ⟨within, starts⟩ := stands
  rw [List.length_append] at within
  rw [List.drop_append, List.drop_eq_nil_of_le behind, List.nil_append] at starts
  exact ⟨by omega, starts⟩

end StandsAt

section Search

variable {piece text : Text} {offset : Nat}

theorem find?_eq_none_iff : find? piece text = none ↔ ¬ piece <:+: text := by
  induction text with
  | nil => simp [find?]
  | cons c text ih =>
      rw [List.infix_cons_iff, not_or, ← ih, ← List.isPrefixOf_iff_prefix, find?]
      split <;> simp_all

theorem findLast?_eq_none_iff : findLast? piece text = none ↔ ¬ piece <:+: text := by
  induction text with
  | nil => simp [findLast?]
  | cons c text ih =>
      rw [List.infix_cons_iff, not_or, ← ih, ← List.isPrefixOf_iff_prefix, findLast?]
      cases findLast? piece text <;> simp

theorem first_of_find? (found : find? piece text = some offset) :
    StandsAt piece offset text ∧ ∀ column, StandsAt piece column text → offset ≤ column := by
  induction text generalizing offset with
  | nil =>
      simp only [find?, List.isEmpty_iff] at found
      split at found
      · next empty =>
          obtain rfl := Option.some.inj found
          exact ⟨standsAt_nil.mpr ⟨rfl, empty⟩, fun column _ => Nat.zero_le column⟩
      · cases found
  | cons c text ih =>
      rw [find?] at found
      split at found
      · next starts =>
          obtain rfl := Option.some.inj found
          refine ⟨standsAt_zero.mpr ?_, fun column _ => Nat.zero_le column⟩
          exact List.isPrefixOf_iff_prefix.mp starts
      · next starts =>
          obtain ⟨later, inside, rfl⟩ := Option.map_eq_some_iff.mp found
          obtain ⟨stands, first⟩ := ih inside
          refine ⟨standsAt_cons_succ.mpr stands, fun column other => ?_⟩
          cases column with
          | zero =>
              rw [standsAt_zero, ← List.isPrefixOf_iff_prefix] at other
              exact absurd other starts
          | succ column => exact Nat.succ_le_succ (first column (standsAt_cons_succ.mp other))

theorem last_of_findLast? (found : findLast? piece text = some offset) :
    StandsAt piece offset text ∧ ∀ column, StandsAt piece column text → column ≤ offset := by
  induction text generalizing offset with
  | nil =>
      simp only [findLast?, List.isEmpty_iff] at found
      split at found
      · next empty =>
          obtain rfl := Option.some.inj found
          refine ⟨standsAt_nil.mpr ⟨rfl, empty⟩, fun column stands => ?_⟩
          exact (standsAt_nil.mp stands).1.le
      · cases found
  | cons c text ih =>
      rw [findLast?] at found
      split at found
      · next later inside =>
          obtain rfl := Option.some.inj found
          obtain ⟨stands, last⟩ := ih inside
          refine ⟨standsAt_cons_succ.mpr stands, fun column other => ?_⟩
          cases column with
          | zero => exact Nat.zero_le _
          | succ column => exact Nat.succ_le_succ (last column (standsAt_cons_succ.mp other))
      · next absent =>
          split at found
          · next starts =>
              obtain rfl := Option.some.inj found
              have here := standsAt_zero.mpr (List.isPrefixOf_iff_prefix.mp starts)
              refine ⟨here, fun column other => ?_⟩
              cases column with
              | zero => exact Nat.le_refl 0
              | succ column =>
                  have inside := (standsAt_cons_succ.mp other).isInfix
                  exact absurd inside (findLast?_eq_none_iff.mp absent)
          · cases found

theorem find?_eq_some_iff :
    find? piece text = some offset ↔
      StandsAt piece offset text ∧ ∀ column, StandsAt piece column text → offset ≤ column := by
  refine ⟨first_of_find?, fun ⟨stands, first⟩ => ?_⟩
  cases found : find? piece text with
  | none => exact absurd stands.isInfix (find?_eq_none_iff.mp found)
  | some other =>
      obtain ⟨otherStands, otherFirst⟩ := first_of_find? found
      rw [Nat.le_antisymm (otherFirst offset stands) (first other otherStands)]

theorem findLast?_eq_some_iff :
    findLast? piece text = some offset ↔
      StandsAt piece offset text ∧ ∀ column, StandsAt piece column text → column ≤ offset := by
  refine ⟨last_of_findLast?, fun ⟨stands, last⟩ => ?_⟩
  cases found : findLast? piece text with
  | none => exact absurd stands.isInfix (findLast?_eq_none_iff.mp found)
  | some other =>
      obtain ⟨otherStands, otherLast⟩ := last_of_findLast? found
      rw [Nat.le_antisymm (last other otherStands) (otherLast offset stands)]

end Search

/-- No end of the piece, apart from the piece itself, is also its start. -/
def Unbordered (piece : Text) : Prop :=
  ∀ column, 0 < column → column < piece.length → ¬ piece.drop column <+: piece

theorem unbordered_row {row : Text} (unbroken : '\n' ∉ row) : Unbordered (row ++ ['\n']) := by
  intro column behind within starts
  rw [List.length_append, List.length_singleton] at within
  rw [List.drop_append_of_le_length (by omega)] at starts
  have inside : row.drop column ++ ['\n'] <+: row := by
    refine List.prefix_of_prefix_length_le starts (List.prefix_append _ _) ?_
    rw [List.length_append, List.length_drop, List.length_singleton]
    omega
  exact unbroken (inside.subset (by simp))

section Unbordered

variable {piece text before after : Text}

theorem Unbordered.apart (unbordered : Unbordered piece) {first second : Nat}
    (stands : StandsAt piece first text) (again : StandsAt piece second text)
    (later : first < second) : first + piece.length ≤ second := by
  by_contra overlap
  obtain ⟨before, after, rfl, rfl⟩ := stands
  -- What the first occurrence has left at the second place is an end of the piece and its start.
  have rest : (before ++ piece ++ after).drop second =
      piece.drop (second - before.length) ++ after := by
    rw [List.append_assoc, List.drop_append, List.drop_eq_nil_of_le later.le, List.nil_append,
      List.drop_append_of_le_length (by omega)]
  have starts := (standsAt_iff.mp again).2
  rw [rest] at starts
  have border : piece.drop (second - before.length) <+: piece := by
    refine List.prefix_of_prefix_length_le (List.prefix_append _ _) starts ?_
    rw [List.length_drop]
    omega
  exact unbordered _ (by omega) (by omega) border

theorem Unbordered.find?_append (unbordered : Unbordered piece) (absent : ¬ piece <:+: before) :
    find? piece (before ++ piece ++ after) = some before.length := by
  have stands : StandsAt piece before.length (before ++ piece ++ after) := ⟨before, after, rfl, rfl⟩
  refine find?_eq_some_iff.mpr ⟨stands, fun column other => ?_⟩
  by_contra earlier
  have ends := unbordered.apart other stands (Nat.lt_of_not_le earlier)
  rw [List.append_assoc] at other
  exact absent (other.of_append_left ends).isInfix

theorem Unbordered.findLast?_append (unbordered : Unbordered piece) (absent : ¬ piece <:+: after) :
    findLast? piece (before ++ piece ++ after) = some before.length := by
  have stands : StandsAt piece before.length (before ++ piece ++ after) := ⟨before, after, rfl, rfl⟩
  refine findLast?_eq_some_iff.mpr ⟨stands, fun column other => ?_⟩
  by_contra later
  have begins := unbordered.apart stands other (Nat.lt_of_not_le later)
  rw [← List.length_append] at begins
  exact absent (other.of_append_right begins).isInfix

end Unbordered

end Text

end InputDeck
