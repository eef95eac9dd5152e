import InputDeck.Proofs.Outline.Unplaced

/-!
The blocks of an outline alone.  What a row does to the blocks depends neither on positions nor on
what has been found before, so it is decided by what the row says.
-/

namespace InputDeck

namespace Outline.State

/-- What has been read, without what has been found. -/
def silent (state : State) : State :=
  { state with found := [] }

theorem silent_reportDuplicate (state : State) (siblings : List Text) (name : Text)
    (start stop : Position) :
    (state.reportDuplicate siblings name start stop).silent = state.silent := by
  unfold reportDuplicate
  split <;> rfl

theorem silent_withCurrent {first second : State} (same : first.silent = second.silent)
    (current : Option OpenTop) :
    ({ first with current } : State).silent = ({ second with current } : State).silent :=
  congrArg (fun state : State => { state with current }) same

theorem silent_openSubOf (state : State) (top : OpenTop) (name : Text) (start stop : Position) :
    (state.openSubOf top name start stop).silent =
      (state.silent.openSubOf top name start stop).silent := by
  apply silent_withCurrent
  rw [silent_reportDuplicate, silent_reportDuplicate]
  rfl

theorem silent_openTop (state : State) (name : Text) (start stop : Position) :
    (state.openTop name start stop).silent = (state.silent.openTop name start stop).silent := by
  unfold openTop
  apply silent_withCurrent
  rw [silent_reportDuplicate, silent_reportDuplicate]
  cases current : state.current <;> simp [silent, current, report]

theorem silent_closeTop (state : State) (start stop : Position) :
    (state.closeTop start stop).silent = (state.silent.closeTop start stop).silent := by
  unfold closeTop
  cases current : state.current with
  | none => simp [silent, current, report]
  | some top => cases sub : top.sub <;> simp [silent, current, sub, report]

theorem silent_openSub (state : State) (name : Text) (start stop : Position) :
    (state.openSub name start stop).silent = (state.silent.openSub name start stop).silent := by
  unfold openSub
  cases current : state.current with
  | none =>
      have outside : state.silent.current = none := current
      simp only [outside]
      rw [silent_openSubOf, silent_openSubOf (state.silent.report _)]
      rfl
  | some top =>
      have inside : state.silent.current = some top := current
      simp only [inside]
      split
      · rw [silent_openSubOf, silent_openSubOf (state.silent.report _)]
        rfl
      · exact silent_openSubOf state top name start stop

theorem silent_closeSub (state : State) (start stop : Position) :
    (state.closeSub start stop).silent = (state.silent.closeSub start stop).silent := by
  unfold closeSub
  cases current : state.current with
  | none => simp [silent, current, report]
  | some top => cases sub : top.sub <;> simp [silent, current, sub, report]

theorem silent_addParameter (state : State) (name : Text) (value : Option Placed)
    (start stop : Position) :
    (state.addParameter name value start stop).silent =
      (state.silent.addParameter name value start stop).silent := by
  unfold addParameter
  cases current : state.current with
  | none => simp [silent, current]
  | some top =>
      simp only [silent, current]
      split <;> rfl

theorem silent_accept (state : State) (line : Line) :
    (state.accept line).silent = (state.silent.accept line).silent := by
  unfold accept
  cases line.content with
  | openTop name => exact silent_openTop state name _ _
  | closeTop => exact silent_closeTop state _ _
  | openSub name => exact silent_openSub state name _ _
  | closeSub => exact silent_closeSub state _ _
  | parameter name value => exact silent_addParameter state name value _ _
  | comment | blank | other => rfl

def bare (state : State) : State :=
  state.silent.unplaced

theorem bare_of_unplaced {first second : State} (same : first.unplaced = second.unplaced) :
    first.bare = second.bare :=
  congrArg silent same

theorem closed_of_bare {first second : State} (same : first.bare = second.bare) :
    first.closed.map TopBlock.unplaced = second.closed.map TopBlock.unplaced :=
  congrArg closed same

theorem current_of_bare {first second : State} (same : first.bare = second.bare) :
    first.current.map OpenTop.unplaced = second.current.map OpenTop.unplaced :=
  congrArg current same

theorem depth_bare (state : State) : state.bare.depth = state.depth := by
  cases current : state.current <;>
    simp [depth, bare, silent, unplaced, current, OpenTop.depth_unplaced]

theorem depth_of_bare {first second : State} (same : first.bare = second.bare) :
    first.depth = second.depth := by
  rw [← depth_bare first, same, depth_bare]

theorem bare_accept {first second : State} {line other : Line} (same : first.bare = second.bare)
    (alike : line.content.Alike other.content) :
    (first.accept line).bare = (second.accept other).bare := by
  calc
    (first.accept line).bare = (first.silent.accept line).silent.unplaced := by
      rw [bare, silent_accept]
    _ = (first.silent.accept line).unplaced.silent := rfl
    _ = (second.silent.accept other).unplaced.silent := by
      rw [unplaced_accept same alike]
    _ = (second.accept other).bare := by
      rw [bare, silent_accept second]
      rfl

theorem bare_step {first second : State} {text other : Text} (same : first.bare = second.bare)
    (alike : (Line.read text).content.reading = (Line.read other).content.reading) :
    (first.step text).bare = (second.step other).bare :=
  bare_accept same (Content.alike_of_reading alike)

theorem bare_step_blank {text : Text} (blank : (Line.read text).content.isBlank = true)
    (state : State) : (state.step text).bare = state.bare :=
  bare_of_unplaced (unplaced_step_blank blank state)

theorem bare_run {first second : State} {rows others : List Text} (same : first.bare = second.bare)
    (alike : rows.map (fun row => (Line.read row).content.reading) =
      others.map (fun row => (Line.read row).content.reading)) :
    (first.run rows).bare = (second.run others).bare := by
  induction rows generalizing first second others with
  | nil =>
      obtain rfl := List.map_eq_nil_iff.mp alike.symm
      exact same
  | cons row rows ih =>
      cases others with
      | nil => cases alike
      | cons other others =>
          obtain ⟨head, tail⟩ := List.cons.inj alike
          rw [run_cons, run_cons]
          exact ih (bare_step same head) tail

theorem bare_run_blank {rows : List Text}
    (blank : ∀ row ∈ rows, (Line.read row).content.isBlank = true) (state : State) :
    (state.run rows).bare = state.bare := by
  induction rows generalizing state with
  | nil => rfl
  | cons row rows ih =>
      rw [run_cons, ih fun other member => blank other (List.mem_cons_of_mem row member)]
      exact bare_step_blank (blank row List.mem_cons_self) state

theorem silent_finish (state : State) : state.finish.silent = state.silent.finish.silent := by
  unfold finish
  cases current : state.current with
  | none => simp [silent, current]
  | some top =>
      have inside : state.silent.current = some top := current
      simp only [inside]
      rfl

theorem bare_finish {first second : State} (same : first.bare = second.bare) :
    first.finish.bare = second.finish.bare := by
  have erased : ∀ state : State, state.finish.bare = state.bare.finish.unplaced.silent := by
    intro state
    rw [bare, silent_finish, bare, ← unplaced_finish]
    rfl
  rw [erased first, erased second, same]

end Outline.State

end InputDeck
