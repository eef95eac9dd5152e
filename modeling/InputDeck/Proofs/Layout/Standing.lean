import InputDeck.Proofs.Layout.Fixpoint

/-!
Rows that stand where they should.  The check of the layout passes over them, from the depth in
front of them to the depth behind them.
-/

namespace InputDeck

namespace Layout

open Text

def Stands (width : Int) (depth : Nat) (rows : List Text) (behind : Nat) : Prop :=
  ∀ row rest, foundFrom width row depth [] (rows ++ rest) =
    foundFrom width (row + rows.length) behind [] rest

namespace Stands

variable {width : Int} {depth middle behind level : Nat} {rows others : List Text}

theorem nil : Stands width depth [] depth :=
  fun _ _ => rfl

theorem append (first : Stands width depth rows middle)
    (second : Stands width middle others behind) :
    Stands width depth (rows ++ others) behind := by
  intro row rest
  rw [List.append_assoc, first, second, List.length_append, Nat.add_assoc]

theorem row {text : Text} (content : (Line.read text).content.isBlank = false)
    (nothing : ∀ row, foundAt width row depth text = []) :
    Stands width depth [text] (depthAfter depth (Line.read text).content) := by
  intro row rest
  rw [List.singleton_append, foundFrom_content content, nothing]
  rfl

theorem indented {text : Text} {c : Char} (solid : isBlank c = false) (start : text.head? = some c)
    (expected : expectedLevel depth (Line.read (indentation width level ++ text)).content =
      some level) :
    Stands width depth [indentation width level ++ text]
      (depthAfter depth (Line.read (indentation width level ++ text)).content) := by
  obtain ⟨inner, rfl⟩ : ∃ inner, text = c :: inner := by
    cases text with
    | nil => cases start
    | cons d inner => exact ⟨inner, by rw [Option.some.inj start]⟩
  apply row
  · cases blank : (Line.read (indentation width level ++ c :: inner)).content.isBlank with
    | false => rfl
    | true =>
        rw [Content.eq_blank_of_isBlank blank] at expected
        cases expected
  · intro row
    simp only [foundAt, expected, misplaced]
    rw [takeWhile_isBlank_append isBlank_of_mem_indentation solid]
    simp

theorem after_blank {first : Text} (stands : Stands width depth (first :: others) behind)
    (content : (Line.read first).content.isBlank = false) (row : Nat) (blankEnd : Position)
    (rest : List Text) :
    foundFrom width row depth [blankEnd] (first :: others ++ rest) =
      foundFrom width (row + (first :: others).length) behind [] rest := by
  rw [← stands row rest, List.cons_append, foundFrom_content content, foundFrom_content content]
  rfl

end Stands

/-- Rows that are changed into rows which stand where they should are laid out by tidying them. -/
theorem foundFrom_tidy {width : Int} {rows : List Text} {change : Nat → Text → Text}
    (free : ∀ text ∈ rows, '\n' ∉ text)
    (stands : ∀ row text depth, rows[row]? = some text →
      (Line.read text).content.isBlank = false → ∃ first others,
        splitOn '\n' (place (some width) (expectedLevel depth (Line.read text).content)
          (text.takeWhile isBlank).length (change row text)) = first :: others ∧
        (Line.read first).content.isBlank = false ∧
        Stands width depth (first :: others) (depthAfter depth (Line.read text).content))
    {source : Nat} {rest : List Text} (here : rows.drop source = rest) (row depth : Nat) :
    foundFrom width row depth []
        ((tidy (some width) change source depth false rest).flatMap (splitOn '\n')) = [] ∧
      ∀ blankEnd, foundFrom width row depth [blankEnd]
        ((tidy (some width) change source depth true rest).flatMap (splitOn '\n')) = [] := by
  induction rest generalizing row source depth with
  | nil => exact ⟨rfl, fun _ => rfl⟩
  | cons text rest ih =>
      have found := getElem?_of_drop here
      have next := drop_succ_of_drop here
      cases blank : (Line.read text).content.isBlank with
      | true =>
          have alone : splitOn '\n' text = [text] :=
            splitOn_of_not_mem (free text (List.mem_of_getElem? found))
          constructor
          · simp only [tidy, blank, if_true, Bool.and_false, Bool.false_eq_true, if_false]
            rw [List.flatMap_cons, alone, List.singleton_append, foundFrom_blank blank]
            exact (ih next (row + 1) depth).2 _
          · intro blankEnd
            simp only [tidy, blank, if_true, Option.isSome_some, Bool.and_true]
            exact (ih next row depth).2 blankEnd
      | false =>
          obtain ⟨first, others, split, content, laid⟩ := stands source text depth found blank
          have later := fun behind => (ih next behind
            (depthAfter depth (Line.read text).content)).1
          simp only [tidy, blank, Bool.false_eq_true, if_false, List.flatMap_cons, split]
          constructor
          · rw [laid]
            exact later _
          · intro blankEnd
            rw [laid.after_blank content]
            exact later _

end Layout

end InputDeck
