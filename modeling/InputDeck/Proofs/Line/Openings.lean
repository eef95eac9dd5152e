import InputDeck.Proofs.Line.Tag
import InputDeck.Proofs.Text.Rows
import Mathlib.Algebra.GroupWithZero.Nat

/-!
What the rows of a text say, and how many of them open a block.  Text that starts a row of its own
and lets nothing behind it open a block takes openings away at most.
-/

namespace InputDeck

namespace Text

def readings (text : Text) : List (String × Option Text × Option Text) :=
  (splitOn '\n' text).map (fun row => (Line.read row).content.reading)

def contentReadings (text : Text) : List (String × Option Text × Option Text) :=
  (contentRows text).map (fun row => (Line.read row).content.reading)

def openings (text : Text) : Nat :=
  (splitOn '\n' text).countP Line.opens

def laterOpenings (text : Text) : Nat :=
  (splitOn '\n' text).tail.countP Line.opens

theorem readings_append_newline (first second : Text) :
    readings (first ++ '\n' :: second) = readings first ++ readings second := by
  rw [readings, splitOn_append_cons, List.map_append, readings, readings]

theorem readings_of_free {text : Text} (free : '\n' ∉ text) :
    readings text = [(Line.read text).content.reading] := by
  rw [readings, splitOn_of_not_mem free]
  rfl

theorem readings_flatMap_append {rows : List Text} (free : ∀ row ∈ rows, '\n' ∉ row) (text : Text) :
    readings (rows.flatMap (· ++ ['\n']) ++ text) =
      rows.map (fun row => (Line.read row).content.reading) ++ readings text := by
  induction rows with
  | nil => rfl
  | cons row rows ih =>
      rw [List.forall_mem_cons] at free
      have split : (row :: rows).flatMap (· ++ ['\n']) ++ text =
          row ++ '\n' :: (rows.flatMap (· ++ ['\n']) ++ text) := by
        simp
      rw [split, readings_append_newline, ih free.2, readings_of_free free.1]
      rfl

theorem openings_append_newline (first second : Text) :
    openings (first ++ '\n' :: second) = openings first + openings second := by
  rw [openings, splitOn_append_cons, List.countP_append, openings, openings]

theorem splitOn_append_of_free {first : Text} (free : '\n' ∉ first) (second : Text) :
    ∃ row rows, splitOn '\n' second = row :: rows ∧
      splitOn '\n' (first ++ second) = (first ++ row) :: rows := by
  obtain ⟨row, rows, split⟩ := List.exists_cons_of_ne_nil (splitOn_ne_nil '\n' second)
  refine ⟨row, rows, split, ?_⟩
  induction first with
  | nil => exact split
  | cons c first ih =>
      simp only [List.mem_cons, not_or] at free
      rw [List.cons_append, splitOn, ih free.2]
      simp [Ne.symm free.1]

theorem free_or_exists_newline (text : Text) :
    '\n' ∉ text ∨ ∃ before last, text = before ++ '\n' :: last ∧ '\n' ∉ last := by
  induction text with
  | nil => exact .inl (by simp)
  | cons c text ih =>
      rcases ih with free | ⟨before, last, rfl, free⟩
      · by_cases newline : c = '\n'
        · exact .inr ⟨[], text, by rw [newline, List.nil_append], free⟩
        · exact .inl (by simp [Ne.symm newline, free])
      · exact .inr ⟨c :: before, last, rfl, free⟩

theorem openings_of_free {text : Text} (free : '\n' ∉ text) :
    openings text = if Line.opens text then 1 else 0 := by
  rw [openings, splitOn_of_not_mem free, List.countP_singleton]

theorem openings_append_of_free {first : Text} (free : '\n' ∉ first) (second : Text) :
    ∃ row, openings (first ++ second) =
      (if Line.opens (first ++ row) then 1 else 0) + laterOpenings second := by
  obtain ⟨row, rows, split, joined⟩ := splitOn_append_of_free free second
  refine ⟨row, ?_⟩
  rw [openings, joined, laterOpenings, split, List.countP_cons, List.tail_cons, Nat.add_comm]

theorem laterOpenings_append_of_free {first : Text} (free : '\n' ∉ first) (second : Text) :
    laterOpenings (first ++ second) = laterOpenings second := by
  obtain ⟨row, rows, split, joined⟩ := splitOn_append_of_free free second
  rw [laterOpenings, joined, laterOpenings, split, List.tail_cons, List.tail_cons]

theorem readings_append_left {space : Text} (blank : ∀ c ∈ space, isBlank c = true)
    (free : '\n' ∉ space) (text : Text) : readings (space ++ text) = readings text := by
  obtain ⟨row, rows, split, joined⟩ := splitOn_append_of_free free text
  rw [readings, readings, joined, split, List.map_cons, List.map_cons, Line.reading_append blank]

theorem openings_append_left {space : Text} (blank : ∀ c ∈ space, isBlank c = true)
    (free : '\n' ∉ space) (text : Text) : openings (space ++ text) = openings text := by
  obtain ⟨row, rows, split, joined⟩ := splitOn_append_of_free free text
  rw [openings, openings, joined, split, List.countP_cons, List.countP_cons,
    Line.opens_append_left blank]

theorem readings_joinWith {rows : List Text} (some : rows ≠ []) :
    readings (joinWith ['\n'] rows) = rows.flatMap readings := by
  rw [readings, splitOn_joinWith_flatMap some, List.map_flatMap]
  rfl

theorem openings_joinWith {rows : List Text} (some : rows ≠ []) :
    openings (joinWith ['\n'] rows) = (rows.map openings).sum := by
  rw [openings, splitOn_joinWith_flatMap some, List.countP_flatMap]
  rfl

theorem openings_le_of_sublist {first second : Text}
    (kept : (contentReadings first).Sublist (readings second)) :
    openings first ≤ openings second := by
  let openingLabel := fun reading : String × Option Text × Option Text =>
    reading.1 == "open_top" || reading.1 == "open_sub"
  have labelled : ∀ row, openingLabel (Line.read row).content.reading = Line.opens row := by
    intro row
    unfold Line.opens
    cases (Line.read row).content <;> rfl
  have solid : ∀ row, Line.opens row = true → (!(Line.read row).content.isBlank) = true := by
    intro row opened
    rw [Line.isBlank_of_opens opened]
    rfl
  have counted := kept.countP_le (p := openingLabel)
  rw [readings, contentReadings, List.countP_map, List.countP_map, contentRows,
    List.countP_filter] at counted
  simp only [Function.comp_def, labelled] at counted
  have whole : (splitOn '\n' first).countP
      (fun row => Line.opens row && !(Line.read row).content.isBlank) = openings first := by
    apply List.countP_congr
    intro row _
    rw [Bool.and_eq_true]
    exact ⟨fun both => both.1, fun opened => ⟨opened, solid row opened⟩⟩
  rw [whole] at counted
  exact counted

/-- No row of a text opens a block, whatever is written behind it. -/
def Guards (text : Text) : Prop :=
  ∀ row ∈ splitOn '\n' text, ∀ rest, Line.opens (row ++ rest) = false

theorem Guards.openings_eq {text : Text} (guards : Guards text) : openings text = 0 := by
  rw [openings, List.countP_eq_zero]
  intro row member
  have shut := guards row member []
  rw [List.append_nil] at shut
  simp [shut]

theorem Guards.openings_append {text : Text} (guards : Guards text) (after : Text) :
    openings (text ++ after) = laterOpenings after := by
  rcases free_or_exists_newline text with free | ⟨before, last, rfl, free⟩
  · obtain ⟨row, count⟩ := openings_append_of_free free after
    have shut := guards text (by rw [splitOn_of_not_mem free]; simp) row
    rw [count, shut]
    simp
  · rw [Guards, splitOn_append_cons] at guards
    have first : Guards before := fun row member =>
      guards row (List.mem_append_left _ member)
    obtain ⟨row, count⟩ := openings_append_of_free free after
    have shut := guards last (List.mem_append_right _ (by rw [splitOn_of_not_mem free]; simp)) row
    rw [List.append_assoc, List.cons_append, openings_append_newline, first.openings_eq, count,
      shut]
    simp

theorem openings_add_laterOpenings_le (first second : Text) :
    openings first + laterOpenings second ≤ openings (first ++ second) := by
  have cut : ∀ last, '\n' ∉ last →
      openings last + laterOpenings second ≤ openings (last ++ second) := by
    intro last free
    obtain ⟨row, count⟩ := openings_append_of_free free second
    rw [count, openings_of_free free]
    cases opened : Line.opens last with
    | false => simp
    | true => simp [Line.opens_append opened row]
  rcases free_or_exists_newline first with free | ⟨before, last, rfl, free⟩
  · exact cut first free
  · rw [List.append_assoc, List.cons_append, openings_append_newline, openings_append_newline]
    have rest := cut last free
    omega

theorem Guards.openings_insert_le {body : Text} (guards : Guards body) (first second : Text) :
    openings (first ++ ('\n' :: body) ++ second) ≤ openings (first ++ second) := by
  rw [List.append_assoc, List.cons_append, openings_append_newline, guards.openings_append]
  exact openings_add_laterOpenings_le first second

end Text

end InputDeck
