import InputDeck.Proofs.Outline.Placement

/-!
What a row does to the blocks that have been read, whatever is wrong with its tag.  Where blocks end
is left out, so that closing one changes nothing but which blocks are open.
-/

namespace InputDeck

namespace Outline

structure Heading where
  level : Level
  name : Text
  start : Position
deriving DecidableEq, Repr

def OpenBlock.heading (level : Level) (block : OpenBlock) : Heading :=
  ⟨level, block.name, block.start⟩

def OpenBlock.add (block : OpenBlock) (parameter : Parameter) : OpenBlock :=
  { block with parameters := block.parameters ++ [parameter] }

def Block.endless (block : Block) : OpenBlock :=
  ⟨block.name, block.start, block.parameters⟩

/-- A block with its sub-blocks, all of them without their ends. -/
structure Branch where
  block : OpenBlock
  children : List OpenBlock := []
deriving DecidableEq, Repr

def TopBlock.branch (top : TopBlock) : Branch :=
  ⟨top.toBlock.endless, top.children.map Block.endless⟩

def ifTaken (names : List Text) (name : Text) (diagnostic : Diagnostic) : List Diagnostic :=
  if name ∈ names then [diagnostic] else []

def Parameter.repeated (parameter : Parameter) : Diagnostic where
  problem := .duplicateParameter parameter.name
  start := parameter.start
  stop := ⟨parameter.start.row, parameter.start.column + parameter.name.length⟩

/-- What a row does to the blocks that have been read and to the open ones, the innermost of which
comes last, and what it finds about names that are taken. -/
inductive Sprouts (row : Nat) (line : Line) :
    List Branch → List Heading → List Branch → List Heading → List Diagnostic → Prop
  | idle (branches : List Branch) (opened : List Heading)
      (passed : line.content = .comment ∨ line.content = .blank ∨ line.content = .other) :
      Sprouts row line branches opened branches opened []
  | openTop (branches : List Branch) (opened : List Heading) {name : Text}
      (reads : line.content = .openTop name) :
      Sprouts row line branches opened
        (branches ++ [{ block := { name, start := ⟨row, line.indent⟩ } }])
        [⟨.top, name, ⟨row, line.indent⟩⟩]
        (ifTaken (branches.map (·.block.name)) name
          { problem := .duplicateBlock name,
            start := ⟨row, line.indent⟩, stop := ⟨row, line.stop⟩ })
  | closeTop (branches : List Branch) (opened : List Heading)
      (reads : line.content = .closeTop) :
      Sprouts row line branches opened branches [] []
  | openSub (before : List Branch) (last : Branch) (inner : List Heading) {name : Text}
      (reads : line.content = .openSub name) :
      Sprouts row line (before ++ [last]) (last.block.heading .top :: inner)
        (before ++
          [{ last with
            children := last.children ++ [{ name, start := ⟨row, line.indent⟩ }] }])
        [last.block.heading .top, ⟨.sub, name, ⟨row, line.indent⟩⟩]
        (ifTaken (last.children.map (·.name)) name
          { problem := .duplicateBlock name,
            start := ⟨row, line.indent⟩, stop := ⟨row, line.stop⟩ })
  | stray (branches : List Branch) {name : Text} (reads : line.content = .openSub name) :
      Sprouts row line branches []
        (branches ++
          [{ block := { name := [], start := ⟨row, line.indent⟩ },
             children := [{ name, start := ⟨row, line.indent⟩ }] }])
        [⟨.top, [], ⟨row, line.indent⟩⟩, ⟨.sub, name, ⟨row, line.indent⟩⟩] []
  | closeSub (branches : List Branch) (opened : List Heading)
      (reads : line.content = .closeSub) :
      Sprouts row line branches opened branches (opened.take 1) []
  | outside (branches : List Branch) {name : Text} {value : Option Placed}
      (reads : line.content = .parameter name value) :
      Sprouts row line branches [] branches [] []
  | givenTop (before : List Branch) (last : Branch) {name : Text} {value : Option Placed}
      (reads : line.content = .parameter name value) :
      Sprouts row line (before ++ [last]) [last.block.heading .top]
        (before ++ [{ last with block := last.block.add (.ofRow row line name value) }])
        [last.block.heading .top]
        (ifTaken (last.block.parameters.map (·.name)) name
          (Parameter.ofRow row line name value).repeated)
  | givenSub (before : List Branch) (block : OpenBlock) (children : List OpenBlock)
      (last : OpenBlock) {name : Text} {value : Option Placed}
      (reads : line.content = .parameter name value) :
      Sprouts row line (before ++ [⟨block, children ++ [last]⟩])
        [block.heading .top, last.heading .sub]
        (before ++ [⟨block, children ++ [last.add (.ofRow row line name value)]⟩])
        [block.heading .top, last.heading .sub]
        (ifTaken (last.parameters.map (·.name)) name
          (Parameter.ofRow row line name value).repeated)

namespace OpenTop

def branch (top : OpenTop) : Branch :=
  ⟨top.block, top.children.map Block.endless ++ top.sub.toList⟩

def opened (top : OpenTop) : List Heading :=
  top.block.heading .top :: top.sub.toList.map (OpenBlock.heading .sub)

variable (top : OpenTop) (stop : Position)

@[simp]
theorem branch_close : (top.close stop).branch = top.branch := by
  cases sub : top.sub <;>
    simp [close, closeSub, branch, TopBlock.branch, OpenBlock.close, Block.endless, sub]

@[simp]
theorem branch_closeSub : (top.closeSub stop).branch = top.branch := by
  cases sub : top.sub <;> simp [closeSub, branch, OpenBlock.close, Block.endless, sub]

end OpenTop

namespace State

def branches (state : State) : List Branch :=
  state.closed.map TopBlock.branch ++ state.current.toList.map OpenTop.branch

def opened (state : State) : List Heading :=
  state.current.toList.flatMap OpenTop.opened

def duplications (state : State) : List Diagnostic :=
  state.found.filter (fun diagnostic => diagnostic.kind == .duplication)

def Sprouts (state : State) (row : Nat) (line : Line) (next : State) : Prop :=
  ∃ news, next.duplications = state.duplications ++ news ∧
    Outline.Sprouts row line state.branches state.opened next.branches next.opened news

theorem duplications_report {state : State} {diagnostic : Diagnostic}
    (closure : diagnostic.kind = .closure) :
    (state.report diagnostic).duplications = state.duplications := by
  simp [duplications, report, closure]

theorem duplications_reportDuplicate (state : State) (siblings : List Text) (name : Text)
    (start stop : Position) :
    (state.reportDuplicate siblings name start stop).duplications =
      state.duplications ++
        ifTaken siblings name { problem := .duplicateBlock name, start, stop } := by
  unfold reportDuplicate
  by_cases taken : name ∈ siblings <;>
    simp [taken, ifTaken, duplications, report, Diagnostic.kind, Problem.kind]

theorem duplications_openSubOf (state : State) (top : OpenTop) (name : Text)
    (start stop : Position) :
    (state.openSubOf top name start stop).duplications =
      state.duplications ++ ifTaken (top.children.map (·.name)) name
        { problem := .duplicateBlock name, start, stop } :=
  duplications_reportDuplicate state _ name start stop

section Rows

variable {state : State} {row : Nat} {line : Line} {name : Text} {top : OpenTop}

theorem branches_of_none (current : state.current = none) :
    state.branches = state.closed.map TopBlock.branch := by
  simp [branches, current]

theorem branches_of_some (current : state.current = some top) :
    state.branches = state.closed.map TopBlock.branch ++ [top.branch] := by
  simp [branches, current]

theorem opened_of_none (current : state.current = none) : state.opened = [] := by
  simp [opened, current]

theorem opened_of_some (current : state.current = some top) : state.opened = top.opened := by
  simp [opened, current]

theorem names_branches (tops : List TopBlock) :
    (tops.map TopBlock.branch).map (·.block.name) = tops.map (·.name) := by
  simp [TopBlock.branch, Block.endless]

theorem sprouts_openTop (reads : line.content = .openTop name) :
    state.Sprouts row line (state.openTop name ⟨row, line.indent⟩ ⟨row, line.stop⟩) := by
  have opens (shut : State) (same : shut.closed.map TopBlock.branch = state.branches)
      (found : shut.duplications = state.duplications) :
      state.Sprouts row line { shut.reportDuplicate (shut.closed.map (·.name)) name
          ⟨row, line.indent⟩ ⟨row, line.stop⟩ with
        current := some { block := { name, start := ⟨row, line.indent⟩ } } } := by
    refine ⟨_, (duplications_reportDuplicate shut _ _ _ _).trans (congrArg (· ++ _) found), ?_⟩
    rw [← names_branches, same]
    have sprouts := @Sprouts.openTop row line state.branches state.opened name reads
    simpa [branches, opened, closed_reportDuplicate, same, OpenTop.branch, OpenTop.opened,
      OpenBlock.heading] using sprouts
  cases current : state.current with
  | none =>
      simp only [openTop, current]
      exact opens state (branches_of_none current).symm rfl
  | some top =>
      simp only [openTop, current]
      apply opens
      · simp [branches_of_some current, report]
      · exact duplications_report rfl

theorem sprouts_closeTop (reads : line.content = .closeTop) :
    state.Sprouts row line (state.closeTop ⟨row, line.indent⟩ ⟨row, line.stop⟩) := by
  have sprouts := @Sprouts.closeTop row line state.branches state.opened reads
  cases current : state.current with
  | none =>
      simp only [closeTop, current]
      refine ⟨[], ?_, ?_⟩
      · rw [List.append_nil]
        exact duplications_report rfl
      · simpa [branches, opened, report, current] using sprouts
  | some top =>
      have closes (told : State) (same : told.closed = state.closed)
          (found : told.duplications = state.duplications) :
          state.Sprouts row line
            { told with
              closed := told.closed ++ [top.close ⟨row, line.stop⟩], current := none } := by
        refine ⟨[], found.trans (List.append_nil _).symm, ?_⟩
        simpa [branches, opened, same, current] using sprouts
      simp only [closeTop, current]
      split
      · exact closes _ rfl (duplications_report rfl)
      · exact closes state rfl rfl

theorem sprouts_openSub (reads : line.content = .openSub name) :
    state.Sprouts row line (state.openSub name ⟨row, line.indent⟩ ⟨row, line.stop⟩) := by
  cases current : state.current with
  | none =>
      have sprouts := @Sprouts.stray row line state.branches name reads
      simp only [openSub, current]
      refine ⟨[], ?_, ?_⟩
      · rw [duplications_openSubOf, duplications_report rfl]
        simp [ifTaken]
      · simpa [openSubOf, branches, opened, closed_reportDuplicate, report, current,
          OpenTop.branch, OpenTop.opened, OpenBlock.heading] using sprouts
  | some top =>
      have attaches (told : State) (shut : OpenTop) (free : shut.sub = none)
          (branch : shut.branch = top.branch) (same : told.closed = state.closed)
          (found : told.duplications = state.duplications) :
          state.Sprouts row line
            (told.openSubOf shut name ⟨row, line.indent⟩ ⟨row, line.stop⟩) := by
        let child : OpenBlock := { name, start := ⟨row, line.indent⟩ }
        have next : (told.openSubOf shut name ⟨row, line.indent⟩ ⟨row, line.stop⟩).current =
            some { shut with sub := some child } := rfl
        have closed : (told.openSubOf shut name ⟨row, line.indent⟩ ⟨row, line.stop⟩).closed =
            state.closed :=
          (closed_reportDuplicate told _ _ _ _).trans same
        have grown : ({ shut with sub := some child } : OpenTop).branch =
            { top.branch with children := top.branch.children ++ [child] } := by
          rw [← branch]
          simp [OpenTop.branch, free]
        have opened : ({ shut with sub := some child } : OpenTop).opened =
            [top.branch.block.heading .top, child.heading .sub] := by
          rw [← branch]
          rfl
        have names : shut.children.map (·.name) = top.branch.children.map (·.name) := by
          rw [← branch]
          simp [OpenTop.branch, free, Block.endless]
        refine ⟨_, (duplications_openSubOf told _ _ _ _).trans (congrArg (· ++ _) found), ?_⟩
        rw [branches_of_some current, opened_of_some current, branches_of_some next,
          opened_of_some next, closed, grown, opened, names]
        exact .openSub _ top.branch _ reads
      simp only [openSub, current]
      cases sub : top.sub with
      | none => exact attaches state top sub rfl rfl rfl
      | some inner =>
          have shut : (top.closeSub state.rowEnd).sub = none := by simp [OpenTop.closeSub, sub]
          exact attaches _ _ shut (top.branch_closeSub _) rfl (duplications_report rfl)

theorem sprouts_closeSub (reads : line.content = .closeSub) :
    state.Sprouts row line (state.closeSub ⟨row, line.indent⟩ ⟨row, line.stop⟩) := by
  have sprouts := @Sprouts.closeSub row line state.branches state.opened reads
  cases current : state.current with
  | none =>
      simp only [closeSub, current]
      refine ⟨[], ?_, ?_⟩
      · rw [List.append_nil]
        exact duplications_report rfl
      · simpa [branches, opened, report, current] using sprouts
  | some top =>
      simp only [closeSub, current]
      cases sub : top.sub with
      | none =>
          refine ⟨[], ?_, ?_⟩
          · rw [List.append_nil]
            exact duplications_report rfl
          · simpa [branches, opened, report, current, OpenTop.opened, sub] using sprouts
      | some inner =>
          refine ⟨[], (List.append_nil _).symm, ?_⟩
          have shut : (top.closeSub ⟨row, line.stop⟩).opened = [top.block.heading .top] := by
            simp [OpenTop.opened, OpenTop.closeSub, sub]
          have next : ({ state with current := some (top.closeSub ⟨row, line.stop⟩) } :
              State).opened = state.opened.take 1 := by
            rw [opened_of_some rfl, shut, opened_of_some current]
            rfl
          have same : ({ state with current := some (top.closeSub ⟨row, line.stop⟩) } :
              State).branches = state.branches := by
            rw [branches_of_some rfl, OpenTop.branch_closeSub, branches_of_some current]
          rw [Option.isSome_some, if_pos rfl, next, same]
          exact .closeSub _ _ reads

theorem isSome_findParameter? (parameters : List Parameter) (name : Text) :
    (findParameter? parameters name).isSome = true ↔ name ∈ parameters.map (·.name) := by
  simp [findParameter?]

theorem sprouts_addParameter {value : Option Placed}
    (reads : line.content = .parameter name value) :
    state.Sprouts row line
      (state.addParameter name value ⟨row, line.indent⟩ ⟨row, line.stop⟩) := by
  let parameter := Parameter.ofRow row line name value
  cases current : state.current with
  | none =>
      simp only [addParameter, current]
      refine ⟨[], (List.append_nil _).symm, ?_⟩
      rw [opened_of_none current]
      exact .outside _ reads
  | some top =>
      have gives (news : List Diagnostic) (next : State)
          (taken : news = ifTaken (top.innermost.parameters.map (·.name)) name parameter.repeated)
          (found : next.duplications = state.duplications ++ news)
          (same : next.closed = state.closed)
          (given : next.current = some (top.addParameter parameter)) :
          state.Sprouts row line next := by
        refine ⟨news, found, ?_⟩
        rw [branches_of_some current, opened_of_some current, branches_of_some given,
          opened_of_some given, same, taken]
        cases sub : top.sub with
        | none =>
            have sprouts := @Sprouts.givenTop row line (state.closed.map TopBlock.branch) top.branch
              name value reads
            simpa [OpenTop.branch, OpenTop.opened, OpenTop.addParameter, OpenTop.innermost, sub,
              OpenBlock.add, OpenBlock.heading, parameter] using sprouts
        | some inner =>
            have sprouts := @Sprouts.givenSub row line (state.closed.map TopBlock.branch) top.block
              (top.children.map Block.endless) inner name value reads
            simpa [OpenTop.branch, OpenTop.opened, OpenTop.addParameter, OpenTop.innermost, sub,
              OpenBlock.add, OpenBlock.heading, parameter] using sprouts
      simp only [addParameter, current]
      split
      · next taken =>
          rw [isSome_findParameter?] at taken
          refine gives [parameter.repeated] _ ?_ ?_ rfl rfl
          · simp [ifTaken, taken]
          · simp [duplications, report, Diagnostic.kind, Problem.kind, parameter,
              Parameter.repeated, Parameter.ofRow]
      · next free =>
          rw [isSome_findParameter?] at free
          refine gives [] _ ?_ (List.append_nil _).symm rfl rfl
          simp [ifTaken, free]

end Rows

theorem sprouts_step (state : State) (text : Text) :
    state.Sprouts state.row (Line.read text) (state.step text) := by
  have accepted (next : State) (takes : state.Sprouts state.row (Line.read text) next)
      (same : state.accept (Line.read text) = next) :
      state.Sprouts state.row (Line.read text) (state.step text) := by
    subst same
    exact takes
  cases content : (Line.read text).content with
  | openTop name => exact accepted _ (sprouts_openTop content) (by simp [accept, content])
  | closeTop => exact accepted _ (sprouts_closeTop content) (by simp [accept, content])
  | openSub name => exact accepted _ (sprouts_openSub content) (by simp [accept, content])
  | closeSub => exact accepted _ (sprouts_closeSub content) (by simp [accept, content])
  | parameter name value =>
      exact accepted _ (sprouts_addParameter content) (by simp [accept, content])
  | comment | blank | other =>
      refine accepted state ⟨[], (List.append_nil _).symm, .idle _ _ ?_⟩ (by simp [accept, content])
      simp [content]

theorem branches_finish (state : State) : state.finish.branches = state.branches := by
  unfold finish branches
  cases current : state.current with
  | none => simp [current]
  | some top => simp [report]

theorem duplications_finish (state : State) : state.finish.duplications = state.duplications := by
  unfold finish
  cases state.current with
  | none => rfl
  | some top => exact duplications_report rfl

end State

end Outline

end InputDeck
