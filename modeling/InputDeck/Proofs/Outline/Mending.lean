import InputDeck.Proofs.Outline.Bare
import InputDeck.Proofs.Outline.Faults

/-!
Mending what does not fit.  Reading the rows that a tag lacks and then the tag does to the blocks
what reading the tag alone does, and no fault is found.
-/

namespace InputDeck

theorem Content.Alike.tag?_eq {first second : Content} (alike : Alike first second) :
    first.tag? = second.tag? := by
  cases alike <;> rfl

namespace Outline.State

section Mending

variable {state : State} {top : OpenTop} {inner : OpenBlock}

private theorem bare_withCurrent (state : State) (current : Option OpenTop) :
    ({ state with current } : State).bare =
      { state.bare with current := current.map OpenTop.unplaced } := rfl

private theorem bare_closed (state : State) (top : OpenTop) (stop : Position) :
    ({ state with closed := state.closed ++ [top.close stop], current := none } : State).bare =
      { state.bare with
        closed := state.bare.closed ++ [top.unplaced.close .origin], current := none } := by
  simp [bare, silent, unplaced, OpenTop.unplaced_close]

theorem bare_finish_of_current (current : state.current = some top) :
    state.finish.bare =
      { state.bare with
        closed := state.bare.closed ++ [top.unplaced.close .origin], current := none } := by
  simp only [finish, current]
  exact bare_closed state top _

theorem bare_step_closeSub (current : state.current = some top) (opened : top.sub = some inner) :
    (state.step "[../]".toList).bare =
      { state.bare with current := some (top.unplaced.closeSub .origin) } := by
  have read : Line.read "[../]".toList = ⟨.closeSub, 0, 5⟩ := by decide
  have closed : (state.closeSub ⟨state.row, 0⟩ ⟨state.row, 5⟩).bare =
      { state.bare with current := some (top.unplaced.closeSub .origin) } := by
    simp only [closeSub, current, opened, Option.isSome_some, if_true]
    rw [bare_withCurrent, Option.map_some, OpenTop.unplaced_closeSub]
  rw [← closed]
  simp only [step, accept, read]
  rfl

theorem bare_step_closeTop (current : state.current = some top) (shut : top.sub = none) :
    (state.step "[]".toList).bare = state.finish.bare := by
  have read : Line.read "[]".toList = ⟨.closeTop, 0, 2⟩ := by decide
  have closed : (state.closeTop ⟨state.row, 0⟩ ⟨state.row, 2⟩).bare = state.finish.bare := by
    rw [bare_finish_of_current current]
    simp only [closeTop, current, shut]
    exact bare_closed state top _
  rw [← closed]
  simp only [step, accept, read]
  rfl

theorem current_step_closeSub (current : state.current = some top) (opened : top.sub = some inner) :
    (state.step "[../]".toList).current = some (top.closeSub ⟨state.row, 5⟩) := by
  have read : Line.read "[../]".toList = ⟨.closeSub, 0, 5⟩ := by decide
  simp only [step, accept, read, closeSub, current, opened]
  rfl

theorem bare_finish_step_closeSub (current : state.current = some top)
    (opened : top.sub = some inner) :
    (state.step "[../]".toList).finish.bare = state.finish.bare := by
  have shut : (top.unplaced.closeSub .origin).close .origin = top.unplaced.close .origin := by
    cases sub : top.unplaced.sub <;> simp [OpenTop.closeSub, sub, OpenTop.close]
  rw [bare_finish_of_current (current_step_closeSub current opened),
    bare_step_closeSub current opened, bare_finish_of_current current, OpenTop.unplaced_closeSub,
    shut]

theorem bare_run_closingTags (current : state.current = some top) :
    (state.run (closingTags state.depth)).bare = state.finish.bare := by
  cases sub : top.sub with
  | none =>
      rw [depth_of_top current sub]
      exact bare_step_closeTop current sub
  | some inner =>
      rw [depth_of_sub current sub, ← bare_finish_step_closeSub current sub]
      have shut : (top.closeSub ⟨state.row, 5⟩).sub = none := by simp [OpenTop.closeSub, sub]
      exact bare_step_closeTop (current_step_closeSub current sub) shut

theorem bare_openTop_of_current (current : state.current = some top) (name : Text)
    (start stop first last : Position) :
    (state.openTop name start stop).bare = (state.finish.openTop name first last).bare := by
  have opened : ∀ (next : State) (start stop : Position),
      ({ next.reportDuplicate (next.closed.map (·.name)) name start stop with
        current := some { block := { name, start } } } : State).bare =
      { next.bare with current := some { block := { name, start := .origin } } } := by
    intro next start stop
    rw [bare_withCurrent, bare, silent_reportDuplicate]
    rfl
  have outside : state.finish.current = none := by simp [finish, current]
  have closed := bare_finish_of_current current
  simp only [openTop, current, outside]
  rw [opened, opened, closed, bare_closed]
  rfl

theorem bare_closeTop_of_sub (current : state.current = some top) (opened : top.sub = some inner)
    (start stop first last : Position) :
    (state.closeTop start stop).bare = ((state.step "[../]".toList).closeTop first last).bare := by
  have shut : (top.closeSub ⟨state.row, 5⟩).sub = none := by simp [OpenTop.closeSub, opened]
  have own : (state.closeTop start stop).bare = state.finish.bare := by
    rw [bare_finish_of_current current]
    simp only [closeTop, current, opened]
    exact bare_closed _ top _
  have inside := current_step_closeSub current opened
  rw [own, ← bare_finish_step_closeSub current opened, bare_finish_of_current inside]
  simp only [closeTop, inside, shut]
  exact (bare_closed _ _ _).symm

theorem bare_openSub_of_sub (current : state.current = some top) (opened : top.sub = some inner)
    (name : Text) (start stop first last : Position) :
    (state.openSub name start stop).bare =
      ((state.step "[../]".toList).openSub name first last).bare := by
  have openedIn : ∀ (next : State) (top : OpenTop) (start stop : Position),
      (next.openSubOf top name start stop).bare =
        { next.bare with
          current := some { top.unplaced with sub := some { name, start := .origin } } } := by
    intro next top start stop
    rw [openSubOf, bare_withCurrent, bare, silent_reportDuplicate]
    rfl
  have shut : ∀ stop, (top.closeSub stop).sub = none := by simp [OpenTop.closeSub, opened]
  have inside := current_step_closeSub current opened
  have before := bare_step_closeSub current opened
  simp only [openSub, current, opened, inside, shut]
  simp only [Option.isSome_some, if_true, Option.isSome_none, Bool.false_eq_true, if_false]
  rw [openedIn, openedIn, before, OpenTop.unplaced_closeSub, OpenTop.unplaced_closeSub]
  rfl

theorem closureFree_found_run (state : State) (rows : List Text) :
    ClosureFree (state.run rows).found ↔
      ClosureFree state.found ∧
        ((rows.filterMap Line.tagOf?).foldlM Tag.next state.depth).isSome := by
  induction rows generalizing state with
  | nil => simp
  | cons row rows ih =>
      rw [run_cons, ih]
      cases tagged : Line.tagOf? row with
      | none =>
          obtain ⟨found, depth⟩ := step_without_tag state tagged
          rw [found, depth, List.filterMap_cons_none tagged]
      | some tag =>
          have follows : state.Follows tag (state.step row) := step_with_tag tagged
          rw [follows.closureFree, List.filterMap_cons_some tagged, List.foldlM_cons]
          cases legal : tag.next state.depth with
          | none => simp
          | some deeper => simp [follows.depth deeper legal]

theorem legal_of_lacking {depth : Nat} {tag : Tag} {rows : List Text}
    (lacks : tag.lacking depth = some rows) :
    ((rows.filterMap Line.tagOf? ++ [tag]).foldlM Tag.next depth).isSome := by
  unfold Tag.lacking at lacks
  split at lacks <;> cases lacks <;> decide

theorem tags_of_readings {rows others : List Text}
    (alike : rows.map (fun row => (Line.read row).content.reading) =
      others.map (fun row => (Line.read row).content.reading)) :
    rows.filterMap Line.tagOf? = others.filterMap Line.tagOf? := by
  induction rows generalizing others with
  | nil =>
      obtain rfl := List.map_eq_nil_iff.mp alike.symm
      rfl
  | cons row rows ih =>
      cases others with
      | nil => cases alike
      | cons other others =>
          obtain ⟨head, tail⟩ := List.cons.inj alike
          have tag : Line.tagOf? row = Line.tagOf? other :=
            (Content.alike_of_reading head).tag?_eq
          rw [List.filterMap_cons, List.filterMap_cons, tag, ih tail]

/-- A tag is read as if the rows that it lacks stood in front of it. -/
theorem bare_accept_lacking {line : Line} {tag : Tag} {rows : List Text}
    (tagged : line.content.tag? = some tag) (lacks : tag.lacking state.depth = some rows) :
    (state.accept line).bare = ((state.run rows).accept line).bare := by
  have same : rows = [] → (state.accept line).bare = ((state.run rows).accept line).bare := by
    rintro rfl
    rfl
  cases content : line.content with
  | openTop name =>
      rw [content] at tagged
      obtain rfl := Option.some.inj tagged
      cases current : state.current with
      | none => exact same (by simpa [depth_of_none current, Tag.lacking] using lacks.symm)
      | some top =>
          have closing : rows = closingTags state.depth := by
            cases sub : top.sub <;>
              simpa [depth, current, OpenTop.depth, sub, Tag.lacking] using lacks.symm
          have closed : (state.run rows).bare = state.finish.bare := by
            rw [closing]
            exact bare_run_closingTags current
          have opened := bare_accept closed (.same line.content)
          rw [opened]
          simp only [accept, content]
          exact bare_openTop_of_current current name _ _ _ _
  | closeTop =>
      rw [content] at tagged
      obtain rfl := Option.some.inj tagged
      cases current : state.current with
      | none => simp [depth_of_none current, Tag.lacking] at lacks
      | some top =>
          cases sub : top.sub with
          | none => exact same (by simpa [depth_of_top current sub, Tag.lacking] using lacks.symm)
          | some inner =>
              obtain rfl : ["[../]".toList] = rows := by
                simpa [depth_of_sub current sub, Tag.lacking] using lacks
              simp only [accept, content]
              exact bare_closeTop_of_sub current sub _ _ _ _
  | openSub name =>
      rw [content] at tagged
      obtain rfl := Option.some.inj tagged
      cases current : state.current with
      | none => simp [depth_of_none current, Tag.lacking] at lacks
      | some top =>
          cases sub : top.sub with
          | none => exact same (by simpa [depth_of_top current sub, Tag.lacking] using lacks.symm)
          | some inner =>
              obtain rfl : ["[../]".toList] = rows := by
                simpa [depth_of_sub current sub, Tag.lacking] using lacks
              simp only [accept, content]
              exact bare_openSub_of_sub current sub name _ _ _ _
  | closeSub =>
      rw [content] at tagged
      obtain rfl := Option.some.inj tagged
      cases current : state.current with
      | none => simp [depth_of_none current, Tag.lacking] at lacks
      | some top =>
          cases sub : top.sub with
          | none => simp [depth_of_top current sub, Tag.lacking] at lacks
          | some inner =>
              exact same (by simpa [depth_of_sub current sub, Tag.lacking] using lacks.symm)
  | parameter | comment | blank | other => simp [content, Content.tag?] at tagged

/-- Rows that say what a row lacks and then what it says itself do to the blocks what the row does,
and no fault is found with them. -/
theorem mended_step {first second : State} {text : Text} {rows others : List Text}
    (same : first.bare = second.bare) (clean : ClosureFree second.found)
    (lacks : lackingAt first.depth (Line.read text).content = some rows)
    (alike : others.map (fun row => (Line.read row).content.reading) =
      (rows ++ [text]).map (fun row => (Line.read row).content.reading)) :
    (first.step text).bare = (second.run others).bare ∧ ClosureFree (second.run others).found := by
  have blocks : (first.step text).bare = (second.run others).bare := by
    have split : (first.step text).bare = (first.run (rows ++ [text])).bare := by
      rw [run_append]
      cases tagged : (Line.read text).content.tag? with
      | none =>
          rw [lackingAt, tagged] at lacks
          obtain rfl := Option.some.inj lacks
          rfl
      | some tag =>
          rw [lackingAt, tagged] at lacks
          exact bare_accept_lacking tagged lacks
    rw [split]
    exact bare_run same alike.symm
  have legal : (((rows ++ [text]).filterMap Line.tagOf?).foldlM Tag.next second.depth).isSome := by
    rw [← depth_of_bare same, List.filterMap_append]
    cases tagged : (Line.read text).content.tag? with
    | none =>
        rw [lackingAt, tagged] at lacks
        obtain rfl := Option.some.inj lacks
        simp [Line.tagOf?, tagged]
    | some tag =>
        rw [lackingAt, tagged] at lacks
        have here : Line.tagOf? text = some tag := tagged
        rw [List.filterMap_cons_some here, List.filterMap_nil]
        exact legal_of_lacking lacks
  rw [← tags_of_readings alike] at legal
  exact ⟨blocks, (closureFree_found_run second others).mpr ⟨clean, legal⟩⟩

end Mending

end Outline.State

end InputDeck
