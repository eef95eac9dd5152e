import InputDeck.Outline.Read
import InputDeck.Proofs.Layout.Tidy

/-!
Two outlines read side by side: that of a document and that of its corrected rows.  A relation
between them that holds at the start holds at the end, if blank rows do not matter to it and every
other row keeps it with what the row is changed to.
-/

namespace InputDeck

namespace Layout

open Text

/-- A relation between the outline of `rows` and the outline of the rows once each has been
changed. -/
structure Simulates (rows : List Text) (width : Option Int) (change : Nat → Text → Text)
    (related : Outline.State → Outline.State → Prop) : Prop where
  blank_left : ∀ first second text, rows[first.row]? = some text →
    (Line.read text).content.isBlank = true → related first second →
      related (first.step text) second
  blank_right : ∀ first second text, (Line.read text).content.isBlank = true →
    related first second → related first (second.step text)
  content : ∀ first second text level, rows[first.row]? = some text →
    (Line.read text).content.isBlank = false → related first second →
      related (first.step text) (second.run (splitOn '\n'
        (place width level (text.takeWhile isBlank).length (change first.row text))))

theorem Simulates.run {rows : List Text} {width : Option Int} {change : Nat → Text → Text}
    {related : Outline.State → Outline.State → Prop}
    (simulates : Simulates rows width change related)
    (free : ∀ text ∈ rows, '\n' ∉ text) {first second : Outline.State} {rest : List Text}
    (here : rows.drop first.row = rest) (depth : Nat) (afterBlank : Bool)
    (start : related first second) :
    related (first.run rest) (second.run
      ((tidy width change first.row depth afterBlank rest).flatMap (splitOn '\n'))) := by
  induction rest generalizing first second depth afterBlank with
  | nil => exact start
  | cons text rest ih =>
      have found := getElem?_of_drop here
      have next : rows.drop (first.step text).row = rest := drop_succ_of_drop here
      cases blank : (Line.read text).content.isBlank with
      | true =>
          have dropped := simulates.blank_left first second text found blank start
          simp only [tidy, blank, if_true]
          split
          · exact ih next depth true dropped
          · have alone : splitOn '\n' text = [text] :=
              splitOn_of_not_mem (free text (List.mem_of_getElem? found))
            rw [List.flatMap_cons, alone, Outline.State.run_append]
            exact ih next depth true (simulates.blank_right _ second text blank dropped)
      | false =>
          simp only [tidy, blank, Bool.false_eq_true, if_false]
          rw [List.flatMap_cons, Outline.State.run_append]
          exact ih next _ false (simulates.content first second text _ found blank start)

end Layout

end InputDeck
