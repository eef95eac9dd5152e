import InputDeck.Text.Basic

/-!
Cutting a text into rows and joining rows to a text undo each other.
-/

namespace InputDeck

namespace Text

@[simp]
theorem splitOn_append_cons (separator : Char) (first second : Text) :
    splitOn separator (first ++ separator :: second) =
      splitOn separator first ++ splitOn separator second := by
  induction first with
  | nil => simp [splitOn]
  | cons c rest ih =>
      by_cases same : c = separator
      · simp [splitOn, same, ih]
      · cases pieces : splitOn separator rest with
        | nil => exact absurd pieces (splitOn_ne_nil separator rest)
        | cons piece more =>
            rw [pieces] at ih
            simp [splitOn, same, pieces, ih]

theorem splitOn_of_not_mem {separator : Char} {text : Text} (free : separator ∉ text) :
    splitOn separator text = [text] := by
  induction text with
  | nil => rfl
  | cons c rest ih =>
      rw [List.mem_cons, not_or] at free
      simp [splitOn, Ne.symm free.1, ih free.2]

theorem not_mem_of_mem_splitOn {separator : Char} {text piece : Text}
    (member : piece ∈ splitOn separator text) : separator ∉ piece := by
  induction text generalizing piece with
  | nil =>
      rw [splitOn, List.mem_singleton] at member
      simp [member]
  | cons c rest ih =>
      by_cases same : c = separator
      · simp only [splitOn, same, if_true, List.mem_cons] at member
        rcases member with rfl | later
        · simp
        · exact ih later
      · cases pieces : splitOn separator rest with
        | nil => exact absurd pieces (splitOn_ne_nil separator rest)
        | cons first more =>
            simp only [splitOn, same, if_false, pieces, List.mem_cons] at member
            rcases member with rfl | later
            · have free : separator ∉ first := ih (by simp [pieces])
              simp [Ne.symm same, free]
            · exact ih (by simp [pieces, later])

@[simp]
theorem joinWith_cons (separator : Char) (row : Text) (rows : List Text) :
    joinWith [separator] (row :: rows) = row ++ rows.flatMap (separator :: ·) := by
  induction rows generalizing row with
  | nil => simp [joinWith]
  | cons next rows ih => simp [joinWith, ih next]

theorem joinWith_append {separator : Char} {first second : List Text} (firstSome : first ≠ [])
    (secondSome : second ≠ []) :
    joinWith [separator] (first ++ second) =
      joinWith [separator] first ++ separator :: joinWith [separator] second := by
  cases first with
  | nil => exact absurd rfl firstSome
  | cons row rows =>
      cases second with
      | nil => exact absurd rfl secondSome
      | cons next others => simp

theorem flatMap_append_singleton {separator : Char} {rows : List Text} (some : rows ≠ []) :
    rows.flatMap (· ++ [separator]) = joinWith [separator] rows ++ [separator] := by
  cases rows with
  | nil => exact absurd rfl some
  | cons row rows =>
      clear some
      induction rows generalizing row with
      | nil => simp
      | cons next rows ih =>
          rw [List.flatMap_cons, ih next]
          simp

theorem splitOn_joinWith_flatMap {separator : Char} {rows : List Text} (some : rows ≠ []) :
    splitOn separator (joinWith [separator] rows) = rows.flatMap (splitOn separator) := by
  cases rows with
  | nil => exact absurd rfl some
  | cons row rows =>
      clear some
      induction rows generalizing row with
      | nil => simp
      | cons next rows ih =>
          have joined := ih next
          rw [joinWith_cons] at joined ⊢
          simp only [List.flatMap_cons, List.cons_append] at joined ⊢
          rw [splitOn_append_cons, joined]

theorem flatMap_splitOn_of_free {separator : Char} {rows : List Text}
    (free : ∀ row ∈ rows, separator ∉ row) : rows.flatMap (splitOn separator) = rows := by
  have pieces : ∀ piece ∈ rows, splitOn separator piece = [piece] :=
    fun piece member => splitOn_of_not_mem (free piece member)
  rw [List.flatMap_def, List.map_congr_left pieces, ← List.flatMap_def, List.flatMap_singleton']

theorem splitOn_joinWith {separator : Char} {rows : List Text} (some : rows ≠ [])
    (free : ∀ row ∈ rows, separator ∉ row) :
    splitOn separator (joinWith [separator] rows) = rows := by
  rw [splitOn_joinWith_flatMap some, flatMap_splitOn_of_free free]

theorem getElem?_of_drop {rows : List Text} {row : Nat} {text : Text} {rest : List Text}
    (here : rows.drop row = text :: rest) : rows[row]? = some text := by
  rw [← List.head?_drop, here, List.head?_cons]

theorem drop_succ_of_drop {rows : List Text} {row : Nat} {text : Text} {rest : List Text}
    (here : rows.drop row = text :: rest) : rows.drop (row + 1) = rest := by
  rw [← List.drop_drop, here]
  rfl

end Text

end InputDeck
