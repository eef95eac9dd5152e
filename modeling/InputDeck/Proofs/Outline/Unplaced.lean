import InputDeck.Outline.Read
import InputDeck.Proofs.Line.Reading

/-!
Outlines without their positions.  What reading a row does to an outline without positions does not
depend on any position, so rows that say the same build the same outline wherever they stand.
-/

namespace InputDeck

def Position.origin : Position := ⟨0, 0⟩

/-- A finding up to its place: what is wrong, and how to mend it. -/
def Diagnostic.unplaced (diagnostic : Diagnostic) : Diagnostic :=
  { diagnostic with start := .origin, stop := .origin }

def Placed.unplaced (placed : Placed) : Placed :=
  ⟨placed.text, 0⟩

def Content.unplaced : Content → Content
  | .parameter name value => .parameter name (value.map Placed.unplaced)
  | content => content

theorem Content.Alike.unplaced_eq {first second : Content} (alike : Alike first second) :
    first.unplaced = second.unplaced := by
  cases alike with
  | same => rfl
  | parameter name values =>
      have erased : ∀ value : Option Placed,
          value.map Placed.unplaced = (value.map (·.text)).map (⟨·, 0⟩) := by
        intro value
        cases value <;> rfl
      simp only [Content.unplaced, erased, values]

namespace Outline

def Parameter.unplaced (parameter : Parameter) : Parameter :=
  { parameter with
    value := parameter.value.map Placed.unplaced, start := .origin, stop := .origin }

def Block.unplaced (block : Block) : Block :=
  { block with
    start := .origin, stop := .origin, parameters := block.parameters.map Parameter.unplaced }

def TopBlock.unplaced (top : TopBlock) : TopBlock :=
  { top with
    toBlock := top.toBlock.unplaced, children := top.children.map Block.unplaced }

def OpenBlock.unplaced (block : OpenBlock) : OpenBlock :=
  { block with start := .origin, parameters := block.parameters.map Parameter.unplaced }

def OpenTop.unplaced (top : OpenTop) : OpenTop where
  block := top.block.unplaced
  children := top.children.map Block.unplaced
  sub := top.sub.map OpenBlock.unplaced

def State.unplaced (state : State) : State where
  closed := state.closed.map TopBlock.unplaced
  current := state.current.map OpenTop.unplaced
  found := state.found.map Diagnostic.unplaced

namespace OpenTop

theorem unplaced_closeSub (top : OpenTop) (stop : Position) :
    (top.closeSub stop).unplaced = top.unplaced.closeSub .origin := by
  cases sub : top.sub <;>
    simp [closeSub, unplaced, sub, OpenBlock.close, OpenBlock.unplaced, Block.unplaced]

theorem unplaced_close (top : OpenTop) (stop : Position) :
    (top.close stop).unplaced = top.unplaced.close .origin := by
  cases sub : top.sub <;>
    simp [close, closeSub, unplaced, sub, OpenBlock.close, OpenBlock.unplaced, Block.unplaced,
      TopBlock.unplaced]

theorem depth_unplaced (top : OpenTop) : top.unplaced.depth = top.depth := by
  simp [depth, unplaced]

theorem unplaced_addParameter (top : OpenTop) (parameter : Parameter) :
    (top.addParameter parameter).unplaced = top.unplaced.addParameter parameter.unplaced := by
  cases sub : top.sub <;> simp [addParameter, unplaced, sub, OpenBlock.unplaced]

theorem findParameter?_unplaced (top : OpenTop) (name : Text) :
    (findParameter? top.unplaced.innermost.parameters name).isSome =
      (findParameter? top.innermost.parameters name).isSome := by
  cases sub : top.sub <;>
    simp [findParameter?, innermost, unplaced, sub, OpenBlock.unplaced, Function.comp_def,
      Parameter.unplaced]

end OpenTop

private theorem Parameter.unplaced_unplaced (parameter : Parameter) :
    parameter.unplaced.unplaced = parameter.unplaced := by
  cases value : parameter.value <;> simp [Parameter.unplaced, value, Placed.unplaced]

private theorem Block.unplaced_unplaced (block : Block) :
    block.unplaced.unplaced = block.unplaced := by
  simp [Block.unplaced, Parameter.unplaced_unplaced]

private theorem OpenBlock.unplaced_unplaced (block : OpenBlock) :
    block.unplaced.unplaced = block.unplaced := by
  simp [OpenBlock.unplaced, Parameter.unplaced_unplaced]

private theorem OpenTop.unplaced_unplaced (top : OpenTop) :
    top.unplaced.unplaced = top.unplaced := by
  cases sub : top.sub <;>
    simp [OpenTop.unplaced, sub, OpenBlock.unplaced_unplaced, Block.unplaced_unplaced]

namespace State

theorem unplaced_unplaced (state : State) : state.unplaced.unplaced = state.unplaced := by
  have tops : ∀ top : TopBlock, top.unplaced.unplaced = top.unplaced := by
    intro top
    simp [TopBlock.unplaced, Block.unplaced_unplaced]
  cases current : state.current <;>
    simp [unplaced, current, tops, OpenTop.unplaced_unplaced, Diagnostic.unplaced]

theorem unplaced_report (state : State) (diagnostic : Diagnostic) :
    (state.report diagnostic).unplaced = state.unplaced.report diagnostic.unplaced := by
  simp [report, unplaced]

theorem unplaced_reportDuplicate (state : State) (siblings : List Text) (name : Text)
    (start stop : Position) :
    (state.reportDuplicate siblings name start stop).unplaced =
      state.unplaced.reportDuplicate siblings name .origin .origin := by
  unfold reportDuplicate
  split
  · exact unplaced_report state _
  · rfl

private theorem names_unplaced (tops : List TopBlock) :
    (tops.map TopBlock.unplaced).map (·.name) = tops.map (·.name) := by
  simp [Function.comp_def, TopBlock.unplaced, Block.unplaced]

private theorem childNames_unplaced (blocks : List Block) :
    (blocks.map Block.unplaced).map (·.name) = blocks.map (·.name) := by
  simp [Function.comp_def, Block.unplaced]

private theorem unplaced_current (state : State) (current : Option OpenTop) :
    ({ state with current } : State).unplaced =
      { state.unplaced with current := current.map OpenTop.unplaced } := rfl

private theorem unplaced_close (state : State) (top : OpenTop) (stop : Position) :
    ({ state with closed := state.closed ++ [top.close stop], current := none } : State).unplaced =
      { state.unplaced with
        closed := state.unplaced.closed ++ [top.unplaced.close .origin], current := none } := by
  simp [unplaced, OpenTop.unplaced_close]

theorem unplaced_openTop (state : State) (name : Text) (start stop : Position) :
    (state.openTop name start stop).unplaced = state.unplaced.openTop name .origin .origin := by
  have opened : ∀ state : State,
      ({ state.reportDuplicate (state.closed.map (·.name)) name start stop with
        current := some { block := { name, start } } } : State).unplaced =
      { state.unplaced.reportDuplicate (state.unplaced.closed.map (·.name)) name .origin .origin with
        current := some { block := { name, start := .origin } } } := by
    intro state
    rw [unplaced_current, unplaced_reportDuplicate, ← names_unplaced]
    rfl
  cases current : state.current with
  | none =>
      have erased : state.unplaced.current = none := by simp [unplaced, current]
      simp only [openTop, current, erased]
      exact opened state
  | some top =>
      have erased : state.unplaced.current = some top.unplaced := by simp [unplaced, current]
      simp only [openTop, current, erased]
      rw [opened, unplaced_close, unplaced_report, OpenTop.depth_unplaced]
      rfl

theorem unplaced_closeTop (state : State) (start stop : Position) :
    (state.closeTop start stop).unplaced = state.unplaced.closeTop .origin .origin := by
  cases current : state.current with
  | none =>
      have erased : state.unplaced.current = none := by simp [unplaced, current]
      simp only [closeTop, current, erased]
      exact unplaced_report state _
  | some top =>
      have erased : state.unplaced.current = some top.unplaced := by simp [unplaced, current]
      have sub : top.unplaced.sub.isSome = top.sub.isSome := by simp [OpenTop.unplaced]
      simp only [closeTop, current, erased, sub]
      split
      · rw [unplaced_close, unplaced_report]
        rfl
      · exact unplaced_close state top stop

theorem unplaced_openSubOf (state : State) (top : OpenTop) (name : Text) (start stop : Position) :
    (state.openSubOf top name start stop).unplaced =
      state.unplaced.openSubOf top.unplaced name .origin .origin := by
  rw [openSubOf, unplaced_current, unplaced_reportDuplicate, ← childNames_unplaced]
  rfl

theorem unplaced_openSub (state : State) (name : Text) (start stop : Position) :
    (state.openSub name start stop).unplaced = state.unplaced.openSub name .origin .origin := by
  cases current : state.current with
  | none =>
      have erased : state.unplaced.current = none := by simp [unplaced, current]
      simp only [openSub, current, erased]
      rw [unplaced_openSubOf, unplaced_report]
      rfl
  | some top =>
      have erased : state.unplaced.current = some top.unplaced := by simp [unplaced, current]
      have sub : top.unplaced.sub.isSome = top.sub.isSome := by simp [OpenTop.unplaced]
      simp only [openSub, current, erased, sub]
      split
      · rw [unplaced_openSubOf, unplaced_report, OpenTop.unplaced_closeSub]
        rfl
      · exact unplaced_openSubOf state top name start stop

theorem unplaced_closeSub (state : State) (start stop : Position) :
    (state.closeSub start stop).unplaced = state.unplaced.closeSub .origin .origin := by
  cases current : state.current with
  | none =>
      have erased : state.unplaced.current = none := by simp [unplaced, current]
      simp only [closeSub, current, erased]
      exact unplaced_report state _
  | some top =>
      have erased : state.unplaced.current = some top.unplaced := by simp [unplaced, current]
      have sub : top.unplaced.sub.isSome = top.sub.isSome := by simp [OpenTop.unplaced]
      simp only [closeSub, current, erased, sub]
      split
      · rw [unplaced_current, Option.map_some, OpenTop.unplaced_closeSub]
      · exact unplaced_report state _

/-- The end of a repeated name is counted from its start, so the positions go once more. -/
theorem unplaced_addParameter (state : State) (name : Text) (value : Option Placed)
    (start stop : Position) :
    (state.addParameter name value start stop).unplaced =
      (state.unplaced.addParameter name (value.map Placed.unplaced) .origin .origin).unplaced := by
  cases current : state.current with
  | none =>
      have erased : state.unplaced.current = none := by simp [unplaced, current]
      simp only [addParameter, current, erased, unplaced_unplaced]
  | some top =>
      have erased : state.unplaced.current = some top.unplaced := by simp [unplaced, current]
      have parameter : (top.addParameter { name, value, start, stop }).unplaced =
          (top.unplaced.addParameter
            { name, value := value.map Placed.unplaced, start := .origin, stop := .origin }).unplaced := by
        rw [OpenTop.unplaced_addParameter, OpenTop.unplaced_addParameter, OpenTop.unplaced_unplaced]
        exact congrArg top.unplaced.addParameter
          (Parameter.unplaced_unplaced { name, value, start, stop }).symm
      have kept : ∀ state other : State, state.unplaced = other.unplaced →
          ({ state with current := some (top.addParameter { name, value, start, stop }) } :
              State).unplaced =
            ({ other with current := some (top.unplaced.addParameter
              { name, value := value.map Placed.unplaced, start := .origin, stop := .origin }) } :
              State).unplaced := by
        intro state other same
        calc
          _ = { state.unplaced with
                current := some (top.addParameter { name, value, start, stop }).unplaced } := rfl
          _ = _ := by rw [same, parameter]; rfl
      simp only [addParameter, current, erased, OpenTop.findParameter?_unplaced]
      split
      · apply kept
        rw [unplaced_report, unplaced_report, unplaced_unplaced]
        rfl
      · exact kept state state.unplaced (unplaced_unplaced state).symm

theorem unplaced_accept {first second : State} {line other : Line}
    (same : first.unplaced = second.unplaced) (alike : line.content.Alike other.content) :
    (first.accept line).unplaced = (second.accept other).unplaced := by
  obtain ⟨content, indent, stop⟩ := line
  obtain ⟨otherContent, otherIndent, otherStop⟩ := other
  have erased := alike.unplaced_eq
  cases alike with
  | same =>
      cases content with
      | openTop name => simp only [accept, unplaced_openTop, same]
      | closeTop => simp only [accept, unplaced_closeTop, same]
      | openSub name => simp only [accept, unplaced_openSub, same]
      | closeSub => simp only [accept, unplaced_closeSub, same]
      | parameter name value =>
          simp only [accept]
          rw [unplaced_addParameter first, unplaced_addParameter second, same]
      | comment => exact same
      | blank => exact same
      | other => exact same
  | parameter name values =>
      simp only [Content.unplaced, Content.parameter.injEq] at erased
      simp only [accept]
      rw [unplaced_addParameter first, unplaced_addParameter second, same, erased.2]

theorem unplaced_step (state : State) (text : Text) :
    (state.step text).unplaced = (state.accept (Line.read text)).unplaced := rfl

theorem unplaced_step_blank {text : Text} (blank : (Line.read text).content.isBlank = true)
    (state : State) : (state.step text).unplaced = state.unplaced := by
  rw [unplaced_step, accept]
  cases content : (Line.read text).content <;> simp [content, Content.isBlank] at blank ⊢

theorem unplaced_finish (state : State) :
    state.finish.unplaced = state.unplaced.finish.unplaced := by
  cases current : state.current with
  | none =>
      have erased : state.unplaced.current = none := by simp [unplaced, current]
      simp only [finish, current, erased, unplaced_unplaced]
  | some top =>
      have erased : state.unplaced.current = some top.unplaced := by simp [unplaced, current]
      simp only [finish, current, erased]
      rw [unplaced_close, unplaced_close, unplaced_report, unplaced_report, unplaced_unplaced,
        OpenTop.depth_unplaced, OpenTop.unplaced_unplaced]
      rfl

end State

end Outline

end InputDeck
