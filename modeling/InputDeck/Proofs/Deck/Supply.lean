import InputDeck.Proofs.Deck.Draft
import InputDeck.Proofs.Layout.Readings
import InputDeck.Proofs.Layout.Simulation
import InputDeck.Proofs.Outline.Ending
import InputDeck.Proofs.Outline.Mending

/-!
Parameters written below the tags that open blocks.  The corrected rows are read into the blocks of
the document, with the new parameters in front of those that each block had.
-/

namespace InputDeck

open Text

namespace Deck

def Entry.reading (entry : Entry) : String × Option Text × Option Text :=
  ("param", some entry.name, entry.value)

theorem Draft.accept_alike {first second : Content} (alike : first.Alike second)
    (supplied : List Entry) (draft : Draft) :
    draft.accept supplied first = draft.accept supplied second := by
  cases alike with
  | same => rfl
  | parameter name values => rw [Draft.accept, Draft.accept, values]

theorem plain_run_entries {rows : List Text} {entries : List Entry}
    (alike : rows.map (fun row => (Line.read row).content.reading) = entries.map Entry.reading)
    (state : Outline.State) : plain (state.run rows) = (plain state).extend entries := by
  induction rows generalizing state entries with
  | nil =>
      obtain rfl : entries = [] := List.map_eq_nil_iff.mp alike.symm
      exact (Draft.extend_nil _).symm
  | cons row rows ih =>
      cases entries with
      | nil => cases alike
      | cons entry entries =>
          obtain ⟨reading, rest⟩ := List.cons.inj alike
          obtain ⟨placed, content, value⟩ := Content.exists_parameter_of_reading reading
          have stepped : plain (state.step row) = (plain state).extend [entry] := by
            apply plain_step
            rw [content, Draft.accept, value]
          rw [Outline.State.run_cons, ih rest, stepped, Draft.extend_append]
          rfl

theorem untagged_of_entries {rows : List Text} {entries : List Entry}
    (alike : rows.map (fun row => (Line.read row).content.reading) = entries.map Entry.reading) :
    rows.filterMap Line.tagOf? = [] := by
  rw [List.filterMap_eq_nil_iff]
  intro row member
  have inside := @List.mem_map_of_mem _ _ _ _ (fun row => (Line.read row).content.reading) member
  rw [alike] at inside
  obtain ⟨entry, -, reading⟩ := List.mem_map.mp inside
  obtain ⟨placed, content, -⟩ := Content.exists_parameter_of_reading reading.symm
  rw [Line.tagOf?, content]
  rfl

theorem closureFree_step {state : Outline.State} (clean : ClosureFree state.found) {row : Text}
    {after : Draft} (legal : (plain state).accept [] (Line.read row).content = some after) :
    ClosureFree (state.step row).found := by
  cases tagged : Line.tagOf? row with
  | none => exact (state.step_without_tag tagged).1.mpr clean
  | some tag =>
      have next := @Draft.depth_accept [] (plain state) _ _ tagged
      rw [legal, depth_draft] at next
      exact (Outline.State.step_with_tag tagged).closureFree.mpr ⟨clean, by rw [← next]; rfl⟩

variable {rows : List Text} {width : Option Int} {change : Nat → Text → Text}
  {supply : Int → List Entry}

/-- Each row is changed to read as before, with parameters below it where it opens a block. -/
structure Supplies (rows : List Text) (change : Nat → Text → Text) (supply : Int → List Entry) :
    Prop where
  space : ∀ row text, rows[row]? = some text → text.takeWhile isBlank <+: change row text
  alike : ∀ (row : Nat) text, rows[row]? = some text → (Line.read text).content.isBlank = false →
    readings (change row text) =
      (Line.read text).content.reading :: (supply row).map Entry.reading
  opens : ∀ (row : Nat) text, rows[row]? = some text → supply row ≠ [] →
    ∃ (level : Level) (name : Text), (Line.read text).content = level.opening name

/-- A document as far as it has been read, and what has been read of its changed rows.  The rows to
come close all blocks. -/
structure Supplied (rows : List Text) (supply : Int → List Entry) (first second : Outline.State) :
    Prop where
  closes : ((rows.drop first.row).filterMap Line.tagOf?).foldlM Tag.next first.depth = some 0
  clean : ClosureFree second.found
  drafted : plain second = draft supply first

namespace Supplied

variable {first second : Outline.State} {text : Text}

theorem exists_accept (supplied : Supplied rows supply first second)
    (here : rows[first.row]? = some text) :
    ∃ after, (draft supply first).accept (supply first.row) (Line.read text).content = some after ∧
      draft supply (first.step text) = after ∧
      ((rows.drop (first.step text).row).filterMap Line.tagOf?).foldlM Tag.next
        (first.step text).depth = some 0 := by
  have next : (first.step text).row = first.row + 1 := rfl
  have split : rows.drop first.row = text :: rows.drop (first.row + 1) := by
    obtain ⟨bound, rfl⟩ := List.getElem?_eq_some_iff.mp here
    exact List.drop_eq_getElem_cons bound
  have closes := supplied.closes
  rw [split, ← depth_draft supply] at closes
  rw [next, ← depth_draft supply]
  cases tagged : Line.tagOf? text with
  | none =>
      have same := @Draft.depth_accept_untagged (supply first.row) (draft supply first) _ tagged
      obtain ⟨after, accepted, depth⟩ := Option.map_eq_some_iff.mp same
      refine ⟨after, accepted, draft_step accepted, ?_⟩
      rw [draft_step accepted, depth]
      rwa [List.filterMap_cons_none tagged] at closes
  | some tag =>
      rw [List.filterMap_cons_some tagged, List.foldlM_cons] at closes
      obtain ⟨deeper, legal, rest⟩ := Option.bind_eq_some_iff.mp closes
      rw [← @Draft.depth_accept (supply first.row) _ _ _ tagged] at legal
      obtain ⟨after, accepted, rfl⟩ := Option.map_eq_some_iff.mp legal
      refine ⟨after, accepted, draft_step accepted, ?_⟩
      rw [draft_step accepted]
      exact rest

end Supplied

theorem Supplies.simulates (supplies : Supplies rows change supply)
    (free : ∀ text ∈ rows, '\n' ∉ text) :
    Layout.Simulates rows width change (Supplied rows supply) where
  blank_left := by
    intro first second text here blank supplied
    obtain ⟨after, accepted, stepped, closes⟩ := supplied.exists_accept here
    rw [Content.eq_blank_of_isBlank blank] at accepted
    refine ⟨closes, supplied.clean, ?_⟩
    rw [stepped, ← Option.some.inj accepted]
    exact supplied.drafted
  blank_right := by
    intro first second text blank supplied
    have content := Content.eq_blank_of_isBlank blank
    have untagged : Line.tagOf? text = none := by
      rw [Line.tagOf?, content]
      rfl
    refine ⟨supplied.closes, (second.step_without_tag untagged).1.mpr supplied.clean, ?_⟩
    apply plain_step
    rw [content, ← supplied.drafted]
    rfl
  content := by
    intro first second text level here content supplied
    obtain ⟨after, accepted, stepped, closes⟩ := supplied.exists_accept here
    have alike : readings (Layout.place width level (text.takeWhile isBlank).length
          (change first.row text)) =
        (Line.read text).content.reading :: (supply first.row).map Entry.reading := by
      rw [Layout.readings_place width level (isBlank_of_mem_takeWhile text)
        (not_mem_takeWhile (free text (List.mem_of_getElem? here)))
        (supplies.space first.row text here)]
      exact supplies.alike first.row text here content
    obtain ⟨piece, others, split, reading, rest⟩ := List.map_eq_cons_iff.mp alike
    have same := Content.alike_of_reading reading
    rw [Draft.accept_eq_extend (supplies.opens first.row text here)] at accepted
    obtain ⟨opened, legal, extended⟩ := Option.map_eq_some_iff.mp accepted
    rw [← supplied.drafted, ← Draft.accept_alike same] at legal
    refine ⟨closes, ?_, ?_⟩
    · rw [split, Outline.State.run_cons, Outline.State.closureFree_found_run,
        untagged_of_entries rest]
      exact ⟨closureFree_step supplied.clean legal, rfl⟩
    · rw [split, Outline.State.run_cons, plain_run_entries rest, plain_step legal, extended,
        stepped]

theorem current_of_depth {state : Outline.State} (outside : state.depth = 0) :
    state.current = none := by
  cases current : state.current with
  | none => rfl
  | some top => cases sub : top.sub <;>
      simp [Outline.State.depth, current, Outline.OpenTop.depth, sub] at outside

theorem Supplies.read (supplies : Supplies rows change supply) (free : ∀ text ∈ rows, '\n' ∉ text)
    (closed : ClosureFree (Outline.read rows).found) (width : Option Int) :
    ClosureFree (Outline.read ((Layout.tidy width change 0 0 false rows).flatMap
        (splitOn '\n'))).found ∧
      (Outline.read ((Layout.tidy width change 0 0 false rows).flatMap
          (splitOn '\n'))).closed.map Top.ofBlock =
        (Outline.read rows).closed.map (Top.supplied supply) := by
  have clean : ClosureFree ({} : Outline.State).found := by simp [ClosureFree]
  have start : Supplied rows supply {} {} :=
    ⟨((Outline.State.closureFree_run {} rows).mp closed).2, clean, rfl⟩
  have here : rows.drop ({} : Outline.State).row = rows := rfl
  have supplied := (@Supplies.simulates rows width change supply supplies free).run free here 0
    false start
  have outside : (Outline.State.run {} rows).current = none :=
    current_of_depth ((Outline.State.closureFree_finish _).mp closed).2
  have shut : (Outline.State.run {} ((Layout.tidy width change 0 0 false rows).flatMap
      (splitOn '\n'))).current = none := by
    have same := congrArg Draft.top supplied.drafted
    simp only [draft, outside, Option.map_none] at same
    exact Option.map_eq_none_iff.mp same
  rw [Outline.read, Outline.read, Outline.State.finish_of_none outside,
    Outline.State.finish_of_none shut]
  exact ⟨supplied.clean, congrArg Draft.tops supplied.drafted⟩

end Deck

end InputDeck
