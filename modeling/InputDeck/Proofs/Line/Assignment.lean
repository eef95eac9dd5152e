import InputDeck.Proofs.Line.Marks
import Mathlib.Tactic.MkIffOfInductiveProp

/-!
Rows that give a value to a name.  Whatever stands behind the equals sign, such a row is read as a
parameter, and its value is what is left there without comment and outer white space.
-/

namespace InputDeck

open Text

theorem Content.exists_parameter_of_reading {content : Content} {name : Text} {value : Option Text}
    (reading : content.reading = ("param", some name, value)) :
    ∃ placed, content = .parameter name placed ∧ placed.map (·.text) = value := by
  cases content <;> simp [Content.reading, Content.label, Content.name?, Content.value?] at reading
  obtain ⟨rfl, value⟩ := reading
  exact ⟨_, rfl, value⟩

namespace Line

@[mk_iff]
structure IsParameterName (name : Text) : Prop where
  nonempty : name ≠ []
  named : ∀ c ∈ name, isNameChar c = true

instance (name : Text) : Decidable (IsParameterName name) :=
  decidable_of_iff (name ≠ [] ∧ name.all isNameChar = true) <| by
    rw [isParameterName_iff, List.all_eq_true]

def valueBehind (tail : Text) : Option Text :=
  let value := trim (uncommented tail)
  if value.isEmpty then none else some value

def assignment (name tail : Text) : Text :=
  name ++ ' ' :: '=' :: tail

theorem uncommented_cons {c : Char} (notMark : c ≠ '#') (rest : Text) :
    uncommented (c :: rest) = c :: uncommented rest := by
  simp [uncommented, notMark]

theorem uncommented_append_of_unmarked {first : Text} (unmarked : '#' ∉ first) (rest : Text) :
    uncommented (first ++ rest) = first ++ uncommented rest := by
  apply List.takeWhile_append_of_pos
  intro c member
  have notMark : c ≠ '#' := by
    rintro rfl
    exact unmarked member
  simpa using notMark

theorem uncommented_of_unmarked {text : Text} (unmarked : '#' ∉ text) :
    uncommented text = text := by
  have whole := uncommented_append_of_unmarked unmarked []
  simpa [uncommented] using whole

theorem isNameChar_iff {c : Char} :
    isNameChar c = true ↔
      Text.isBlank c = false ∧ c ≠ '=' ∧ c ≠ '[' ∧ c ≠ ']' ∧ c ≠ '#' := by
  simp [isNameChar, and_assoc]

theorem trimStart_trimEnd (text : Text) : trimStart (trimEnd text) = trim text := by
  change _ = trimEnd (trimStart text)
  have split := eq_takeWhile_append_trimStart text
  have blank := isBlank_of_mem_takeWhile text
  cases start : trimStart text with
  | nil =>
      rw [start, List.append_nil] at split
      rw [split, trimEnd_of_blank blank]
      rfl
  | cons c rest =>
      have solid : isBlank c = false := by
        have kept := List.head?_dropWhile_not isBlank text
        rw [← trimStart, start] at kept
        simpa using kept
      rw [start] at split
      have ended := trimEnd_append_cons solid [] rest
      rw [split, trimEnd_append_cons solid, trimStart_append blank, trimStart_cons_of_solid solid]
      exact ended.symm

theorem mem_of_mem_trim {c : Char} {text : Text} (member : c ∈ trim text) : c ∈ text := by
  have inside : c ∈ trimStart text :=
    List.mem_reverse.mp ((List.dropWhile_sublist _).subset (List.mem_reverse.mp member))
  exact (List.dropWhile_sublist _).subset inside

theorem reading_assignment {name tail : Text} (valid : IsParameterName name)
    (unbroken : '\n' ∉ tail) :
    (read (assignment name tail)).content.reading =
      ("param", some name, valueBehind tail) := by
  obtain ⟨c, rest, rfl⟩ := List.exists_cons_of_ne_nil valid.nonempty
  obtain ⟨solid, -, noTag, -, notMark⟩ := isNameChar_iff.mp (valid.named c List.mem_cons_self)
  have unmarked : '#' ∉ rest ++ [' ', '='] := by
    simp only [List.mem_append, not_or]
    refine ⟨fun member => ?_, by decide⟩
    have named := valid.named '#' (List.mem_cons_of_mem c member)
    simp [isNameChar] at named
  have body : trimEnd (uncommented (rest ++ ' ' :: '=' :: tail)) =
      rest ++ ' ' :: '=' :: trimEnd (uncommented tail) := by
    have cut := uncommented_append_of_unmarked unmarked tail
    have ended := trimEnd_append_cons (show isBlank '=' = false by decide) (rest ++ [' '])
      (uncommented tail)
    simp only [List.append_assoc, List.cons_append, List.nil_append] at cut ended
    rw [cut, ended]
  have row : assignment (c :: rest) tail = [] ++ c :: (rest ++ ' ' :: '=' :: tail) := rfl
  obtain ⟨taken, left⟩ := @cut_name (c :: rest) [' '] valid.named (by simp)
    (trimEnd (uncommented tail))
  have free : '\n' ∉ trim (uncommented tail) := fun member =>
    unbroken ((List.takeWhile_sublist _).subset (mem_of_mem_trim member))
  rw [row, read_text (by simp) solid notMark, body, readContent_of_ne noTag]
  simp only [List.cons_append, List.nil_append] at taken left
  have behind : trimStart (' ' :: '=' :: trimEnd (uncommented tail)) =
      '=' :: trimEnd (uncommented tail) := rfl
  simp only [readParameter, taken, left, behind, trimStart_trimEnd, valueBehind]
  simp only [List.isEmpty_cons, Bool.false_or, List.contains_iff_mem, free, if_false]
  split <;> rfl

end Line

end InputDeck
