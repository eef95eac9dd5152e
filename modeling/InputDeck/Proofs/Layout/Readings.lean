import InputDeck.Proofs.Layout.Fixpoint
import InputDeck.Proofs.Line.Openings

/-!
What the rows say that the corrections of the layout leave, and how many blocks they open, when each
row has been changed by other edits before.
-/

namespace InputDeck

open Text

namespace Layout

section Place

variable (width : Option Int) (level : Option Nat) {space changed : Text}

private theorem place_eq (blank : ∀ c ∈ space, isBlank c = true) (free : '\n' ∉ space)
    (start : space <+: changed) :
    ∃ new rest, (∀ c ∈ new, isBlank c = true) ∧ '\n' ∉ new ∧
      place width level space.length changed = new ++ rest ∧ changed = space ++ rest := by
  obtain ⟨rest, rfl⟩ := start
  unfold place
  split
  · next tab level =>
      refine ⟨indentation tab level, rest, isBlank_of_mem_indentation, ?_, ?_, rfl⟩
      · simp [indentation]
      · rw [List.drop_left]
  · exact ⟨space, rest, blank, free, rfl, rfl⟩

theorem readings_place (blank : ∀ c ∈ space, isBlank c = true) (free : '\n' ∉ space)
    (start : space <+: changed) :
    readings (place width level space.length changed) = readings changed := by
  obtain ⟨new, rest, newBlank, newFree, placed, rfl⟩ := place_eq width level blank free start
  rw [placed, readings_append_left newBlank newFree, readings_append_left blank free]

theorem openings_place (blank : ∀ c ∈ space, isBlank c = true) (free : '\n' ∉ space)
    (start : space <+: changed) :
    openings (place width level space.length changed) = openings changed := by
  obtain ⟨new, rest, newBlank, newFree, placed, rfl⟩ := place_eq width level blank free start
  rw [placed, openings_append_left newBlank newFree, openings_append_left blank free]

end Place

section Tidy

variable {rows : List Text} {change : Nat → Text → Text} (width : Option Int)

theorem sublist_readings_tidy (free : ∀ text ∈ rows, '\n' ∉ text)
    (space : ∀ row text, rows[row]? = some text → text.takeWhile isBlank <+: change row text)
    (keeps : ∀ row text, rows[row]? = some text → (Line.read text).content.isBlank = false →
      [(Line.read text).content.reading].Sublist (readings (change row text)))
    {row : Nat} {rest : List Text} (here : rows.drop row = rest) (depth : Nat)
    (afterBlank : Bool) :
    ((rest.filter (fun text => !(Line.read text).content.isBlank)).map
        (fun text => (Line.read text).content.reading)).Sublist
      ((tidy width change row depth afterBlank rest).flatMap readings) := by
  induction rest generalizing row depth afterBlank with
  | nil => exact List.nil_sublist _
  | cons text rest ih =>
      have found := getElem?_of_drop here
      have next := drop_succ_of_drop here
      cases blank : (Line.read text).content.isBlank with
      | true =>
          have later := ih next depth true
          rw [List.filter_cons_of_neg (by simp [blank])]
          simp only [tidy, blank, if_true]
          split
          · exact later
          · exact later.trans (List.sublist_append_right _ _)
      | false =>
          have later := ih next (depthAfter depth (Line.read text).content) false
          have spaceFree := not_mem_takeWhile (free text (List.mem_of_getElem? found))
          rw [List.filter_cons_of_pos (by simp [blank])]
          simp only [tidy, blank, Bool.false_eq_true, if_false, List.flatMap_cons, List.map_cons]
          rw [readings_place width _ (isBlank_of_mem_takeWhile text) spaceFree
            (space row text found)]
          exact (keeps row text found blank).append later

theorem openings_tidy (free : ∀ text ∈ rows, '\n' ∉ text)
    (space : ∀ row text, rows[row]? = some text → text.takeWhile isBlank <+: change row text)
    (bound : ∀ row text, rows[row]? = some text →
      openings (change row text) ≤ if Line.opens text then 1 else 0)
    {row : Nat} {rest : List Text} (here : rows.drop row = rest) (depth : Nat)
    (afterBlank : Bool) :
    ((tidy width change row depth afterBlank rest).map openings).sum ≤ rest.countP Line.opens ∧
      (rest.countP Line.opens ≤ ((tidy width change row depth afterBlank rest).map openings).sum →
        ∀ other text, row ≤ other → rows[other]? = some text → Line.opens text = true →
          1 ≤ openings (change other text)) := by
  induction rest generalizing row depth afterBlank with
  | nil =>
      refine ⟨Nat.le_refl _, ?_⟩
      intro _ other text after found _
      have bound := (List.getElem?_eq_some_iff.mp found).1
      have all := List.drop_eq_nil_iff.mp here
      omega
  | cons text rest ih =>
      have found := getElem?_of_drop here
      have next := drop_succ_of_drop here
      have oneRow := free text (List.mem_of_getElem? found)
      have split : ∃ depth' blank' own, own ≤ (if Line.opens text then 1 else 0) ∧
          (Line.opens text = true → own = openings (change row text)) ∧
          ((tidy width change row depth afterBlank (text :: rest)).map openings).sum =
            own + ((tidy width change (row + 1) depth' blank' rest).map openings).sum := by
        cases blank : (Line.read text).content.isBlank with
        | true =>
            have shut : Line.opens text = false := by
              simp [Line.opens, Content.eq_blank_of_isBlank blank]
            have none : openings text = 0 := by simp [openings_of_free oneRow, shut]
            refine ⟨depth, true, 0, Nat.zero_le _, by simp [shut], ?_⟩
            simp only [tidy, blank, if_true]
            split <;> simp [none]
        | false =>
            refine ⟨depthAfter depth (Line.read text).content, false, openings (change row text),
              bound row text found, fun _ => rfl, ?_⟩
            simp only [tidy, blank, Bool.false_eq_true, if_false, List.map_cons, List.sum_cons]
            rw [openings_place width _ (isBlank_of_mem_takeWhile text) (not_mem_takeWhile oneRow)
              (space row text found)]
      obtain ⟨depth', blank', own, ownBound, ownOpens, sum⟩ := split
      obtain ⟨laterBound, laterOpens⟩ := ih next depth' blank'
      rw [sum, List.countP_cons]
      refine ⟨by omega, ?_⟩
      intro enough other otherText after there opens
      rcases Nat.eq_or_lt_of_le after with rfl | behind
      · obtain rfl : text = otherText := Option.some.inj (found.symm.trans there)
        rw [← ownOpens opens]
        simp only [opens, if_true] at enough
        omega
      · exact laterOpens (by omega) other otherText behind there opens

end Tidy

end Layout

end InputDeck
