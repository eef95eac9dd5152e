import InputDeck.Proofs.Outline.Grammar

/-!
Tags that do not fit, and what would make them fit.  A tag may lack closing tags in front of it, and
then the finding says which they are; where no closing tag would help, there is no correction.
-/

namespace InputDeck

def closingTags (depth : Nat) : List Text :=
  List.replicate (depth - 1) "[../]".toList ++ ["[]".toList]

theorem closingRows_eq (depth : Nat) :
    Outline.State.closingRows depth = (closingTags depth).flatMap (· ++ ['\n']) := by
  simp [Outline.State.closingRows, closingTags, List.flatMap_replicate]

theorem closingTail_eq (depth : Nat) :
    Outline.State.closingTail depth = (closingTags depth).flatMap ('\n' :: ·) := by
  simp [Outline.State.closingTail, closingTags, List.flatMap_replicate]

/-- The rows that a tag lacks in front of it at a depth, if it can be made to fit. -/
def Tag.lacking : Nat → Tag → Option (List Text)
  | 0, openTop | 1, closeTop | 1, openSub | 2, closeSub => some []
  | 1, openTop => some (closingTags 1)
  | 2, openTop => some (closingTags 2)
  | 2, closeTop | 2, openSub => some ["[../]".toList]
  | _, _ => none

namespace Outline.State

/-- What has been found about the way blocks open and close. -/
def closures (state : State) : List Diagnostic :=
  state.found.filter (fun diagnostic => diagnostic.kind == .closure)

def missing (problem : Problem) (start stop : Position) (rows : List Text) : Diagnostic where
  problem := problem
  start := start
  stop := stop
  correction := some (.insertBefore (rows.flatMap (· ++ ['\n'])))

/-- What is found about the way blocks open and close at a tag, by the rows that it lacks. -/
inductive Fault (start stop : Position) : Option (List Text) → List Diagnostic → Prop
  | fits : Fault start stop (some []) []
  | lacking {problem : Problem} (closure : problem.kind = .closure) {rows : List Text}
      (needed : rows ≠ []) : Fault start stop (some rows) [missing problem start stop rows]
  | stuck {problem : Problem} (closure : problem.kind = .closure) :
      Fault start stop none [{ problem, start, stop }]

theorem closures_report (state : State) {diagnostic : Diagnostic}
    (closure : diagnostic.kind = .closure) :
    (state.report diagnostic).closures = state.closures ++ [diagnostic] := by
  simp [closures, report, closure]

theorem closures_report_other (state : State) {diagnostic : Diagnostic}
    (other : diagnostic.kind ≠ .closure) : (state.report diagnostic).closures = state.closures := by
  simp [closures, report, other]

theorem closures_reportDuplicate (state : State) (siblings : List Text) (name : Text)
    (start stop : Position) :
    (state.reportDuplicate siblings name start stop).closures = state.closures := by
  unfold reportDuplicate
  split
  · exact closures_report_other state (by simp [Diagnostic.kind, Problem.kind])
  · rfl

def Blames (state : State) (tag : Tag) (start stop : Position) (next : State) : Prop :=
  ∃ news, next.closures = state.closures ++ news ∧ Fault start stop (tag.lacking state.depth) news

namespace Blames

variable {state next : State} {tag : Tag} {start stop : Position}

theorem fits (legal : tag.lacking state.depth = some []) (same : next.closures = state.closures) :
    state.Blames tag start stop next :=
  ⟨[], same.trans (List.append_nil _).symm, legal ▸ .fits⟩

theorem lacking (problem : Problem) {rows : List Text}
    (lacks : tag.lacking state.depth = some rows) (closure : problem.kind = .closure)
    (needed : rows ≠ [])
    (same : next.closures = (state.report (missing problem start stop rows)).closures) :
    state.Blames tag start stop next :=
  ⟨_, same.trans (closures_report state closure), lacks ▸ .lacking closure needed⟩

theorem stuck (problem : Problem) (misplaced : tag.lacking state.depth = none)
    (closure : problem.kind = .closure)
    (same : next.closures = (state.report { problem, start, stop }).closures) :
    state.Blames tag start stop next :=
  ⟨_, same.trans (closures_report state closure), misplaced ▸ .stuck closure⟩

end Blames

section Depth

variable {state : State} {top : OpenTop} {inner : OpenBlock}

theorem depth_of_none (current : state.current = none) : state.depth = 0 := by
  simp [depth, current]

theorem depth_of_top (current : state.current = some top) (shut : top.sub = none) :
    state.depth = 1 := by
  simp [depth, current, OpenTop.depth, shut]

theorem depth_of_sub (current : state.current = some top) (opened : top.sub = some inner) :
    state.depth = 2 := by
  simp [depth, current, OpenTop.depth, opened]

end Depth

theorem blames_openTop (state : State) (name : Text) (start stop : Position) :
    state.Blames .openTop start stop (state.openTop name start stop) := by
  have opened : ∀ next : State,
      ({ next.reportDuplicate (next.closed.map (·.name)) name start stop with
        current := some { block := { name, start } } } : State).closures = next.closures :=
    fun next => closures_reportDuplicate next _ name start stop
  cases current : state.current with
  | none =>
      apply Blames.fits
      · rw [depth_of_none current]
        rfl
      · simp only [openTop, current]
        exact opened state
  | some top =>
      have lacks : Tag.openTop.lacking state.depth = some (closingTags top.depth) := by
        cases sub : top.sub <;> simp [depth, current, OpenTop.depth, sub, Tag.lacking]
      apply Blames.lacking .openedBeforeClosed lacks rfl (by simp [closingTags])
      simp only [openTop, current, closingRows_eq]
      exact opened _

theorem blames_closeTop (state : State) (start stop : Position) :
    state.Blames .closeTop start stop (state.closeTop start stop) := by
  cases current : state.current with
  | none =>
      apply Blames.stuck .closedBeforeOpened
      · rw [depth_of_none current]
        rfl
      · rfl
      · simp only [closeTop, current]
  | some top =>
      cases sub : top.sub with
      | none =>
          apply Blames.fits
          · rw [depth_of_top current sub]
            rfl
          · simp only [closeTop, current, sub]
            rfl
      | some inner =>
          apply Blames.lacking .closedBeforeChild
          · rw [depth_of_sub current sub]
            rfl
          · rfl
          · simp
          · simp only [closeTop, current, sub]
            rfl

theorem blames_openSub (state : State) (name : Text) (start stop : Position) :
    state.Blames .openSub start stop (state.openSub name start stop) := by
  have opened : ∀ (next : State) (top : OpenTop),
      (next.openSubOf top name start stop).closures = next.closures :=
    fun next top => closures_reportDuplicate next _ name start stop
  cases current : state.current with
  | none =>
      apply Blames.stuck .childOutside
      · rw [depth_of_none current]
        rfl
      · rfl
      · simp only [openSub, current]
        exact opened _ _
  | some top =>
      cases sub : top.sub with
      | none =>
          apply Blames.fits
          · rw [depth_of_top current sub]
            rfl
          · simp only [openSub, current, sub]
            exact opened state top
      | some inner =>
          apply Blames.lacking .childBeforeClosed
          · rw [depth_of_sub current sub]
            rfl
          · rfl
          · simp
          · simp only [openSub, current, sub]
            exact opened _ _

theorem blames_closeSub (state : State) (start stop : Position) :
    state.Blames .closeSub start stop (state.closeSub start stop) := by
  cases current : state.current with
  | none =>
      apply Blames.stuck .childClosedOutside
      · rw [depth_of_none current]
        rfl
      · rfl
      · simp only [closeSub, current]
  | some top =>
      cases sub : top.sub with
      | none =>
          apply Blames.stuck .childClosedInBlock
          · rw [depth_of_top current sub]
            rfl
          · rfl
          · simp only [closeSub, current, sub]
            rfl
      | some inner =>
          apply Blames.fits
          · rw [depth_of_sub current sub]
            rfl
          · simp only [closeSub, current, sub]
            rfl

def lackingAt (depth : Nat) (content : Content) : Option (List Text) :=
  match content.tag? with
  | none => some []
  | some tag => tag.lacking depth

theorem closures_addParameter (state : State) (name : Text) (value : Option Placed)
    (start stop : Position) :
    (state.addParameter name value start stop).closures = state.closures := by
  unfold addParameter
  cases state.current with
  | none => rfl
  | some top =>
      dsimp only
      split
      · exact closures_report_other state (by simp [Diagnostic.kind, Problem.kind])
      · rfl

theorem blames_step (state : State) (text : Text) :
    ∃ news, (state.step text).closures = state.closures ++ news ∧
      Fault ⟨state.row, (Line.read text).indent⟩ ⟨state.row, (Line.read text).stop⟩
        (lackingAt state.depth (Line.read text).content) news := by
  have untouched : (state.step text).closures = (state.accept (Line.read text)).closures := rfl
  rw [untouched, accept, lackingAt]
  cases (Line.read text).content with
  | openTop name => exact blames_openTop state name _ _
  | closeTop => exact blames_closeTop state _ _
  | openSub name => exact blames_openSub state name _ _
  | closeSub => exact blames_closeSub state _ _
  | parameter name value =>
      exact ⟨[], (closures_addParameter state name value _ _).trans (List.append_nil _).symm, .fits⟩
  | comment | blank | other => exact ⟨[], (List.append_nil _).symm, .fits⟩

theorem Fault.start_of_mem {start stop : Position} {lacking : Option (List Text)}
    {news : List Diagnostic} (fault : Fault start stop lacking news) :
    ∀ diagnostic ∈ news, diagnostic.start = start := by
  cases fault <;> simp [missing]

theorem closures_run (state : State) (rows : List Text) :
    ∃ later, (state.run rows).closures = state.closures ++ later ∧
      ∀ diagnostic ∈ later, (state.row : Int) ≤ diagnostic.start.row ∧
        diagnostic.start.row < (state.row + rows.length : Nat) := by
  induction rows generalizing state with
  | nil => exact ⟨[], (List.append_nil _).symm, by simp⟩
  | cons text rows ih =>
      obtain ⟨news, here, fault⟩ := state.blames_step text
      obtain ⟨later, there, starts⟩ := ih (state.step text)
      refine ⟨news ++ later, ?_, ?_⟩
      · rw [run_cons, there, here, List.append_assoc]
      · have next : (state.step text).row = state.row + 1 := rfl
        rw [next] at starts
        refine List.forall_mem_append.mpr ⟨fun diagnostic member => ?_, fun diagnostic member => ?_⟩
        · rw [fault.start_of_mem diagnostic member]
          simp only [List.length_cons]
          omega
        · have bounds := starts diagnostic member
          simp only [List.length_cons]
          omega

end Outline.State

end InputDeck
