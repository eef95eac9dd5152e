import InputDeck.Proofs.Outline.Growth

/-!
Where parameters stand.  Whatever is wrong with the tags, a row adds empty blocks to what has been
read, gives one parameter to the innermost open block, or leaves what the blocks hold as it is.  So
every parameter of an outline is what its row reads, that row gives it to a block of its own level,
and no two parameters share a row.
-/

namespace InputDeck

namespace Outline

def Parameter.ofRow (row : Nat) (line : Line) (name : Text) (value : Option Placed) : Parameter :=
  { name, value, start := ⟨row, line.indent⟩, stop := ⟨row, line.stop⟩ }

inductive Spreads (row depth : Nat) (line : Line) : List Portion → List Portion → Prop
  | same (portions : List Portion) : Spreads row depth line portions portions
  | opened (portions : List Portion) {fresh : List Portion}
      (empty : ∀ portion ∈ fresh, portion.parameters = []) :
      Spreads row depth line portions (portions ++ fresh)
  | given {name : Text} {value : Option Placed} {portion : Portion} (before after : List Portion)
      (reads : line.content = .parameter name value) (level : portion.path.length = depth) :
      Spreads row depth line (before ++ portion :: after)
        (before ++ portion.add (.ofRow row line name value) :: after)

namespace OpenTop

theorem portions_openSub {top : OpenTop} (shut : top.sub = none) (name : Text) (start : Position) :
    ({ top with sub := some { name, start } } : OpenTop).portions =
      top.portions ++ [⟨[top.block.name, name], start, []⟩] := by
  simp [portions, shut, OpenBlock.portion]

theorem length_names (top : OpenTop) : top.names.length = top.depth := by
  cases opened : top.sub <;> simp [names, depth, opened]

end OpenTop

namespace State

variable (state : State)

theorem closed_reportDuplicate (siblings : List Text) (name : Text) (start stop : Position) :
    (state.reportDuplicate siblings name start stop).closed = state.closed := by
  unfold reportDuplicate
  split
  · rfl
  · rfl

theorem portions_openTop (name : Text) (start stop : Position) :
    (state.openTop name start stop).portions = state.portions ++ [⟨[name], start, []⟩] := by
  have new : ({ block := { name, start } } : OpenTop).portions = [⟨[name], start, []⟩] := rfl
  cases current : state.current with
  | none =>
      simp [openTop, portions, current, closed_reportDuplicate, new]
  | some top =>
      simp [openTop, portions, current, closed_reportDuplicate, new, report,
        OpenTop.portions_close]

theorem portions_closeTop (start stop : Position) :
    (state.closeTop start stop).portions = state.portions := by
  cases current : state.current with
  | none => simp [closeTop, portions, current, report]
  | some top =>
      cases opened : top.sub <;>
        simp [closeTop, portions, current, opened, report, OpenTop.portions_close]

theorem portions_openSubOf {top : OpenTop} (shut : top.sub = none) (name : Text)
    (start stop : Position) :
    (state.openSubOf top name start stop).portions =
      state.closed.flatMap TopBlock.portions ++ top.portions ++
        [⟨[top.block.name, name], start, []⟩] := by
  simp [openSubOf, portions, closed_reportDuplicate, OpenTop.portions_openSub shut]

theorem exists_portions_openSub (name : Text) (start stop : Position) :
    ∃ fresh, (∀ portion ∈ fresh, portion.parameters = []) ∧
      (state.openSub name start stop).portions = state.portions ++ fresh := by
  cases current : state.current with
  | none =>
      have shut : ({ block := { name := [], start } } : OpenTop).sub = none := rfl
      have whole := (state.report { problem := .childOutside, start, stop }).portions_openSubOf
        shut name start stop
      refine ⟨[⟨[[]], start, []⟩, ⟨[[], name], start, []⟩], by simp, ?_⟩
      simp only [openSub, current, whole]
      simp [portions, current, report, OpenTop.portions, OpenBlock.portion]
  | some top =>
      refine ⟨[⟨[top.block.name, name], start, []⟩], by simp, ?_⟩
      cases opened : top.sub with
      | none =>
          simp only [openSub, current, opened, Option.isSome_none, Bool.false_eq_true, if_false]
          rw [portions_openSubOf state opened]
          simp [portions, current]
      | some sub =>
          have shut (stop : Position) : (top.closeSub stop).sub = none := by
            simp [OpenTop.closeSub, opened]
          have block (stop : Position) : (top.closeSub stop).block = top.block := by
            simp [OpenTop.closeSub, opened]
          simp only [openSub, current, opened, Option.isSome_some, if_true]
          rw [portions_openSubOf _ (shut _), OpenTop.portions_closeSub, block]
          simp [portions, current, report]

theorem portions_closeSub (start stop : Position) :
    (state.closeSub start stop).portions = state.portions := by
  cases current : state.current with
  | none => simp [closeSub, portions, current, report]
  | some top =>
      cases opened : top.sub <;>
        simp [closeSub, portions, current, opened, report, OpenTop.portions_closeSub]

theorem exists_portions_addParameter {top : OpenTop} (current : state.current = some top)
    (name : Text) (value : Option Placed) (start stop : Position) :
    ∃ before after, state.portions = before ++ top.portion :: after ∧
      (state.addParameter name value start stop).portions =
        before ++ top.portion.add { name, value, start, stop } :: after := by
  obtain ⟨first, last, old, new⟩ := top.exists_portions_addParameter { name, value, start, stop }
  refine ⟨state.closed.flatMap TopBlock.portions ++ first, last, ?_, ?_⟩
  · simp [portions, current, old]
  · simp only [addParameter, current]
    split <;> simp [portions, report, new]

theorem spreads_step (text : Text) :
    Spreads state.row state.depth (Line.read text) state.portions (state.step text).portions := by
  have accepted : (state.step text).portions = (state.accept (Line.read text)).portions := rfl
  have same : (state.accept (Line.read text)).portions = state.portions →
      Spreads state.row state.depth (Line.read text) state.portions (state.step text).portions := by
    intro unchanged
    rw [accepted, unchanged]
    exact .same _
  cases content : (Line.read text).content with
  | openTop name =>
      rw [accepted, accept, content]
      dsimp only
      rw [portions_openTop]
      exact .opened _ (by simp)
  | closeTop =>
      apply same
      rw [accept, content]
      exact portions_closeTop state _ _
  | openSub name =>
      rw [accepted, accept, content]
      dsimp only
      obtain ⟨fresh, empty, opened⟩ := state.exists_portions_openSub name
        ⟨state.row, (Line.read text).indent⟩ ⟨state.row, (Line.read text).stop⟩
      rw [opened]
      exact .opened _ empty
  | closeSub =>
      apply same
      rw [accept, content]
      exact portions_closeSub state _ _
  | parameter name value =>
      cases current : state.current with
      | none =>
          apply same
          simp [accept, content, addParameter, current]
      | some top =>
          obtain ⟨before, after, old, new⟩ := state.exists_portions_addParameter current name value
            ⟨state.row, (Line.read text).indent⟩ ⟨state.row, (Line.read text).stop⟩
          have level : top.portion.path.length = state.depth := by
            rw [depth, current]
            exact top.length_names
          rw [accepted, accept, content]
          dsimp only
          rw [old, new]
          exact .given before after content level
  | comment | blank | other =>
      apply same
      rw [accept, content]

end State

/-- A parameter is what its row reads, and down to there so many blocks are open. -/
def Parameter.Stands (rows : List Text) (depth : Nat) (parameter : Parameter) : Prop :=
  ∃ (row : Nat) (text name : Text) (value : Option Placed),
    rows[row]? = some text ∧ (Line.read text).content = .parameter name value ∧
      parameter = .ofRow row (Line.read text) name value ∧
      (State.run {} (rows.take row)).depth = depth

def parametersOf (portions : List Portion) : List Parameter :=
  portions.flatMap (·.parameters)

namespace Spreads

variable {row depth : Nat} {line : Line} {old new : List Portion}

theorem origin (spreads : Spreads row depth line old new) {portion : Portion}
    (member : portion ∈ new) {parameter : Parameter} (inside : parameter ∈ portion.parameters) :
    (∃ prior ∈ old, prior.path = portion.path ∧ parameter ∈ prior.parameters) ∨
      portion.path.length = depth ∧ ∃ name value,
        line.content = .parameter name value ∧ parameter = .ofRow row line name value := by
  cases spreads with
  | same => exact .inl ⟨portion, member, rfl, inside⟩
  | opened portions empty =>
      rcases List.mem_append.mp member with earlier | added
      · exact .inl ⟨portion, earlier, rfl, inside⟩
      · rw [empty portion added] at inside
        cases inside
  | @given name value prior before after reads level =>
      rcases List.mem_append.mp member with earlier | later
      · exact .inl ⟨portion, List.mem_append_left _ earlier, rfl, inside⟩
      · rcases List.mem_cons.mp later with rfl | later
        · rcases List.mem_append.mp inside with had | given
          · exact .inl ⟨prior, by simp, rfl, had⟩
          · exact .inr ⟨level, name, value, reads, List.mem_singleton.mp given⟩
        · exact .inl ⟨portion, by simp [later], rfl, inside⟩

theorem perm_parametersOf (spreads : Spreads row depth line old new) :
    (parametersOf new).Perm (parametersOf old) ∨
      ∃ parameter : Parameter, parameter.start.row = row ∧
        (parametersOf new).Perm (parameter :: parametersOf old) := by
  cases spreads with
  | same => exact .inl (List.Perm.refl _)
  | @opened _ fresh empty =>
      have nothing : parametersOf fresh = [] := List.flatMap_eq_nil_iff.mpr empty
      refine .inl (List.Perm.of_eq ?_)
      rw [parametersOf, List.flatMap_append]
      simp only [parametersOf] at nothing
      rw [nothing, List.append_nil, parametersOf]
  | @given name value portion before after reads level =>
      refine .inr ⟨.ofRow row line name value, rfl, ?_⟩
      simp only [parametersOf, List.flatMap_append, List.flatMap_cons, Portion.add,
        List.append_assoc, List.singleton_append]
      rw [← List.append_assoc, ← List.append_assoc]
      exact List.perm_middle

end Spreads

namespace State

structure Apart (state : State) : Prop where
  distinct : ((parametersOf state.portions).map (·.start.row)).Nodup
  above : ∀ parameter ∈ parametersOf state.portions, parameter.start.row < state.row

theorem Apart.step {state : State} (apart : state.Apart) (text : Text) :
    (state.step text).Apart := by
  have next : (state.step text).row = state.row + 1 := rfl
  have higher : ∀ parameter ∈ parametersOf state.portions,
      parameter.start.row < (state.step text).row := by
    intro parameter member
    have earlier := apart.above parameter member
    omega
  rcases (state.spreads_step text).perm_parametersOf with same | ⟨new, here, more⟩
  · exact ⟨(same.map _).nodup_iff.mpr apart.distinct,
      fun parameter member => higher parameter (same.mem_iff.mp member)⟩
  · constructor
    · rw [(more.map _).nodup_iff, List.map_cons, List.nodup_cons]
      refine ⟨?_, apart.distinct⟩
      intro member
      obtain ⟨parameter, inside, same⟩ := List.mem_map.mp member
      have earlier := apart.above parameter inside
      omega
    · intro parameter member
      rcases List.mem_cons.mp (more.mem_iff.mp member) with rfl | before
      · omega
      · exact higher parameter before

theorem stands_take (rows : List Text) (count : Nat) (bound : count ≤ rows.length) :
    ∀ portion ∈ (run {} (rows.take count)).portions, ∀ parameter ∈ portion.parameters,
      parameter.Stands rows portion.path.length := by
  induction count with
  | zero => simp [portions]
  | succ count ih =>
      intro portion member parameter inside
      have here : rows[count]? = some rows[count] := List.getElem?_eq_getElem bound
      have spreads := (run {} (rows.take count)).spreads_step rows[count]
      rw [← run_take_succ here, row_run_take here] at spreads
      rcases spreads.origin member inside with
        ⟨prior, old, path, before⟩ | ⟨level, name, value, reads, placed⟩
      · exact path ▸ ih (Nat.le_of_succ_le bound) prior old parameter before
      · exact ⟨count, rows[count], name, value, here, reads, placed, level.symm⟩

end State

end Outline

namespace Document

open Outline

variable {doc : Document} {path : List Text} {block : Block}

theorem stands_of_holds (holds : Holds doc.outline path block) :
    ∀ parameter ∈ block.parameters, parameter.Stands doc.rows path.length := by
  have member : block.portion path ∈ doc.outline.flatMap TopBlock.portions :=
    mem_portions_iff.mpr ⟨path, block, holds, rfl⟩
  rw [portions_outline] at member
  have stands := State.stands_take doc.rows doc.rows.length (Nat.le_refl _)
  rw [List.take_length] at stands
  exact stands (block.portion path) member

theorem opensAt_of_holds (holds : Holds doc.outline path block) (named : path ≠ [[]]) :
    ∃ level : Level, level.depth = path.length ∧
      OpensAt doc.rows level block.name block.start := by
  have rooted := (rooted_read doc.rows).closed
  cases holds with
  | @top top member =>
      refine ⟨.top, rfl, (rooted top member).block.resolve_left ?_⟩
      intro unnamed
      exact named (congrArg (fun name => [name]) unnamed)
  | @sub top block member inside => exact ⟨.sub, rfl, (rooted top member).children block inside⟩

end Document

end InputDeck
