import InputDeck.Proofs.Context.Upward
import InputDeck.Proofs.Outline.Ending

/-!
How an outline grows.  Where nothing stands in the way of a row, it opens one block, gives one
parameter to the innermost open block, or leaves what the blocks hold as it is.  So every parameter
of an outline can be traced to its row and to what its block held there, and what is open at some
row can be found again in the whole outline.
-/

namespace InputDeck

namespace Outline

/-- What has been read of a block, closed or not, under its path. -/
structure Portion where
  path : List Text
  start : Position
  parameters : List Parameter
deriving DecidableEq, Repr

def Portion.add (portion : Portion) (parameter : Parameter) : Portion :=
  { portion with parameters := portion.parameters ++ [parameter] }

def Block.portion (path : List Text) (block : Block) : Portion :=
  ⟨path, block.start, block.parameters⟩

def OpenBlock.portion (path : List Text) (block : OpenBlock) : Portion :=
  ⟨path, block.start, block.parameters⟩

def TopBlock.portions (top : TopBlock) : List Portion :=
  top.toBlock.portion [top.name] ::
    top.children.map (fun child => child.portion [top.name, child.name])

namespace OpenTop

def portions (top : OpenTop) : List Portion :=
  top.block.portion [top.block.name] ::
    (top.children.map (fun child => child.portion [top.block.name, child.name]) ++
      top.sub.toList.map (fun sub => sub.portion [top.block.name, sub.name]))

def portion (top : OpenTop) : Portion :=
  top.innermost.portion top.names

theorem portion_mem (top : OpenTop) : top.portion ∈ top.portions := by
  cases opened : top.sub <;> simp [portion, portions, innermost, names, opened]

theorem portions_close (top : OpenTop) (stop : Position) :
    (top.close stop).portions = top.portions := by
  cases opened : top.sub <;>
    simp [close, closeSub, OpenBlock.close, TopBlock.portions, portions, Block.portion,
      OpenBlock.portion, opened]

theorem portions_closeSub (top : OpenTop) (stop : Position) :
    (top.closeSub stop).portions = top.portions := by
  cases opened : top.sub <;>
    simp [closeSub, OpenBlock.close, portions, Block.portion, OpenBlock.portion, opened]

theorem portion_addParameter (top : OpenTop) (parameter : Parameter) :
    (top.addParameter parameter).portion = top.portion.add parameter := by
  cases opened : top.sub <;>
    simp [addParameter, portion, Portion.add, innermost, names, OpenBlock.portion, opened]

theorem exists_portions_addParameter (top : OpenTop) (parameter : Parameter) :
    ∃ before after, top.portions = before ++ top.portion :: after ∧
      (top.addParameter parameter).portions = before ++ top.portion.add parameter :: after := by
  cases opened : top.sub with
  | none =>
      refine
        ⟨[], top.children.map (fun child => child.portion [top.block.name, child.name]), ?_, ?_⟩
      · simp [portions, portion, innermost, names, opened]
      · simp [addParameter, portions, portion, Portion.add, innermost, names, OpenBlock.portion,
          opened]
  | some sub =>
      refine ⟨top.block.portion [top.block.name] ::
        top.children.map (fun child => child.portion [top.block.name, child.name]), [], ?_, ?_⟩
      · simp [portions, portion, innermost, names, opened]
      · simp [addParameter, portions, portion, Portion.add, innermost, names, OpenBlock.portion,
          opened]

end OpenTop

/-- What a row at some place does to the portions of all blocks, when nothing stands in its way. -/
inductive Grows (row : Nat) (content : Content) (innermost : Option Portion) :
    List Portion → List Portion → Prop
  | same (portions : List Portion) : Grows row content innermost portions portions
  | opened {start : Position} (portions : List Portion) (path : List Text)
      (here : start.row = row) :
      Grows row content innermost portions (portions ++ [⟨path, start, []⟩])
  | given {parameter : Parameter} {portion : Portion} (before after : List Portion)
      (here : parameter.start.row = row)
      (reads : content = .parameter parameter.name parameter.value)
      (inside : innermost = some (portion.add parameter)) :
      Grows row content innermost (before ++ portion :: after)
        (before ++ portion.add parameter :: after)

namespace Grows

variable {row : Nat} {content : Content} {innermost : Option Portion} {old new : List Portion}
  {portion : Portion}

theorem origin (grows : Grows row content innermost old new) (member : portion ∈ new) :
    portion ∈ old ∨ portion.parameters = [] ∨
      ∃ prior ∈ old, ∃ parameter, portion = prior.add parameter ∧ parameter.start.row = row ∧
        content = .parameter parameter.name parameter.value ∧ innermost = some portion := by
  cases grows with
  | same => exact .inl member
  | opened portions path here =>
      rcases List.mem_append.mp member with earlier | added
      · exact .inl earlier
      · obtain rfl := List.mem_singleton.mp added
        exact .inr (.inl rfl)
  | @given parameter prior before after here reads inside =>
      rcases List.mem_append.mp member with earlier | later
      · exact .inl (List.mem_append_left _ earlier)
      · rcases List.mem_cons.mp later with rfl | later
        · exact .inr (.inr ⟨prior, by simp, parameter, rfl, here, reads, inside⟩)
        · exact .inl (by simp [later])

theorem extend (grows : Grows row content innermost old new) (member : portion ∈ old) :
    ∃ grown ∈ new, grown.path = portion.path ∧ grown.start = portion.start ∧
      ∃ later, grown.parameters = portion.parameters ++ later ∧
        ∀ parameter ∈ later, parameter.start.row = row := by
  have kept : portion ∈ new → ∃ grown ∈ new, grown.path = portion.path ∧
      grown.start = portion.start ∧ ∃ later, grown.parameters = portion.parameters ++ later ∧
        ∀ parameter ∈ later, parameter.start.row = row :=
    fun still => ⟨portion, still, rfl, rfl, [], by simp, by simp⟩
  cases grows with
  | same => exact kept member
  | opened portions path here => exact kept (List.mem_append_left _ member)
  | @given parameter prior before after here reads inside =>
      rcases List.mem_append.mp member with earlier | later
      · exact kept (List.mem_append_left _ earlier)
      · rcases List.mem_cons.mp later with rfl | later
        · refine ⟨portion.add parameter, by simp, rfl, rfl, [parameter], rfl, ?_⟩
          simpa using here
        · exact kept (by simp [later])

end Grows

namespace State

def portions (state : State) : List Portion :=
  state.closed.flatMap TopBlock.portions ++ state.current.toList.flatMap OpenTop.portions

def portion? (state : State) : Option Portion :=
  state.current.map OpenTop.portion

theorem portion?_mem {state : State} {portion : Portion} (here : state.portion? = some portion) :
    portion ∈ state.portions := by
  obtain ⟨top, current, rfl⟩ := Option.map_eq_some_iff.mp here
  simp [portions, current, top.portion_mem]

theorem portions_finish (state : State) : state.finish.portions = state.portions := by
  unfold finish portions
  cases current : state.current with
  | none => simp [current]
  | some top => simp [report, OpenTop.portions_close]

theorem grows_step {state : State} {text : Text} (orderly : Orderly (state.step text).found) :
    Grows state.row (Line.read text).content (state.step text).portion? state.portions
      (state.step text).portions := by
  have advances := (advances_step orderly).2
  generalize content : (Line.read text).content = reading at advances
  generalize before : state.current = current at advances
  generalize after : (state.step text).current = next at advances
  have same : (state.step text).portions = state.portions →
      Grows state.row reading (state.step text).portion? state.portions
        (state.step text).portions :=
    fun unchanged => unchanged ▸ .same _
  -- Closing a block only moves what it holds, so that four of the seven cases change nothing.
  cases advances with
  | openTop name start =>
      have opened : (state.step text).portions = state.portions ++
          [⟨[name], ⟨state.row, (Line.read text).indent⟩, []⟩] := by
        simp [step, accept, content, openTop, before, reportDuplicate, report, portions,
          OpenTop.portions, OpenBlock.portion]
        split <;> simp
      rw [opened]
      exact .opened _ _ rfl
  | @closeTop top shut =>
      apply same
      simp [step, accept, content, State.closeTop, before, portions, OpenTop.portions_close, shut]
  | @openSub top shut name fresh start =>
      have opened : (state.step text).portions = state.portions ++
          [⟨[top.block.name, name], ⟨state.row, (Line.read text).indent⟩, []⟩] := by
        simp [step, accept, content, openSub, before, shut, openSubOf, reportDuplicate, fresh,
          portions, OpenTop.portions, OpenBlock.portion]
      rw [opened]
      exact .opened _ _ rfl
  | @closeSub top sub opened stop =>
      apply same
      simp [step, accept, content, State.closeSub, before, portions, OpenTop.portions_closeSub,
        opened]
  | @parameter top parameter fresh =>
      let added : Parameter :=
        ⟨parameter.name, parameter.value, [], ⟨state.row, (Line.read text).indent⟩,
          ⟨state.row, (Line.read text).stop⟩⟩
      have current : (state.step text).current = some (top.addParameter added) := by
        simp [step, accept, content, State.addParameter, before, fresh, added]
      have closed : (state.step text).closed = state.closed := by
        simp [step, accept, content, State.addParameter, before, fresh]
      obtain ⟨first, last, old, new⟩ := top.exists_portions_addParameter added
      have inside : (state.step text).portion? = some (top.portion.add added) := by
        rw [portion?, current, Option.map_some, OpenTop.portion_addParameter]
      have whole : state.portions =
          (state.closed.flatMap TopBlock.portions ++ first) ++ top.portion :: last := by
        simp [portions, before, old]
      have grown : (state.step text).portions =
          (state.closed.flatMap TopBlock.portions ++ first) ++ top.portion.add added :: last := by
        simp [portions, current, closed, new]
      rw [whole, grown]
      exact .given _ _ rfl rfl inside
  | outside name value =>
      apply same
      simp [step, accept, content, State.addParameter, before, portions]
  | idle current passed =>
      apply same
      rcases passed with rfl | rfl | rfl <;> simp [step, accept, content, portions]

theorem exists_given_step {state : State} {text name : Text} {value : Option Placed} {top : OpenTop}
    (reads : (Line.read text).content = .parameter name value)
    (current : (state.step text).current = some top) :
    ∃ parameter ∈ top.portion.parameters, parameter.name = name ∧ parameter.value = value ∧
      parameter.start.row = state.row := by
  cases before : state.current with
  | none => simp [step, accept, reads, State.addParameter, before] at current
  | some old =>
      simp only [step, accept, reads, State.addParameter, before, Option.some.injEq] at current
      rw [← current, OpenTop.portion_addParameter]
      exact ⟨_, List.mem_append_right _ List.mem_cons_self, rfl, rfl, rfl⟩

structure Ascending (state : State) : Prop where
  ordered : state.portions.Pairwise (·.start.row < ·.start.row)
  above : ∀ portion ∈ state.portions, portion.start.row < state.row

theorem Ascending.step {state : State} (ascending : state.Ascending) {text : Text}
    (orderly : Orderly (state.step text).found) : (state.step text).Ascending := by
  have grows := grows_step orderly
  have next : (state.step text).row = state.row + 1 := rfl
  obtain ⟨ordered, above⟩ := ascending
  generalize state.portions = old at *
  generalize grown : (state.step text).portions = new at *
  have starts : ∀ portion ∈ old, portion.start.row < (state.step text).row := by
    intro portion member
    have earlier := above portion member
    omega
  cases grows with
  | same => exact ⟨grown ▸ ordered, grown ▸ starts⟩
  | opened portions path here =>
      constructor
      · rw [grown, List.pairwise_append]
        refine ⟨ordered, List.pairwise_singleton _ _, fun portion member other added => ?_⟩
        obtain rfl := List.mem_singleton.mp added
        exact here ▸ above portion member
      · rw [grown, List.forall_mem_append]
        refine ⟨starts, fun portion added => ?_⟩
        obtain rfl := List.mem_singleton.mp added
        simp only [here, next]
        omega
  | @given parameter portion before after here reads inside =>
      have same : (before ++ portion.add parameter :: after).map (·.start) =
          (before ++ portion :: after).map (·.start) := by
        simp [Portion.add]
      constructor
      · have kept : ((before ++ portion :: after).map (·.start)).Pairwise (·.row < ·.row) :=
          List.pairwise_map.mpr ordered
        rw [grown]
        rw [← same, List.pairwise_map] at kept
        exact kept
      · rw [grown]
        rw [List.forall_mem_append, List.forall_mem_cons] at starts ⊢
        exact starts

/-- Every parameter of a portion stands in its row, and up to there its block held what comes
before it. -/
def Traced (rows : List Text) (portion : Portion) : Prop :=
  ∀ before parameter after, portion.parameters = before ++ parameter :: after →
    ∃ (row : Nat) (text : Text), rows[row]? = some text ∧ parameter.start.row = (row : Int) ∧
      (Line.read text).content = .parameter parameter.name parameter.value ∧
      (run {} (rows.take (row + 1))).portion? =
        some ⟨portion.path, portion.start, before ++ [parameter]⟩

section Run

variable {rows : List Text} {row : Nat} {text : Text} {portion : Portion}

theorem ascending_run (orderly : Orderly (run {} rows).found) : (run {} rows).Ascending := by
  induction rows using List.reverseRecOn with
  | nil => exact ⟨List.Pairwise.nil, by simp [portions]⟩
  | append_singleton rows row ih =>
      rw [run_append, run_cons, run_nil] at orderly ⊢
      exact (ih (advances_step orderly).1).step orderly

theorem traced_take (orderly : Orderly (read rows).found) (count : Nat)
    (bound : count ≤ rows.length) :
    ∀ portion ∈ (run {} (rows.take count)).portions, Traced rows portion := by
  induction count with
  | zero => simp [portions]
  | succ count ih =>
      have here : rows[count]? = some rows[count] := List.getElem?_eq_getElem bound
      have earlier := ih (Nat.le_of_succ_le bound)
      have grows := grows_step (run_take_succ here ▸ orderly_take orderly (count + 1))
      rw [← run_take_succ here, row_run_take here] at grows
      intro portion member
      rcases grows.origin member with
        old | empty | ⟨prior, old, parameter, rfl, start, reads, inside⟩
      · exact earlier portion old
      · intro before parameter after split
        rw [empty] at split
        simp at split
      · intro before other after split
        rcases List.eq_nil_or_concat after with rfl | ⟨later, last, rfl⟩
        · obtain ⟨rfl, same⟩ := List.append_inj' split rfl
          obtain rfl : parameter = other := by simpa using same
          exact ⟨count, _, here, start, reads, inside⟩
        · have shorter :
              prior.parameters ++ [parameter] = (before ++ other :: later) ++ [last] := by
            simpa [Portion.add] using split
          exact earlier prior old before other later (List.append_inj' shorter rfl).1

theorem exists_grown_take (orderly : Orderly (read rows).found)
    (here : (run {} (rows.take (row + 1))).portion? = some portion) (count : Nat)
    (bound : row + 1 + count ≤ rows.length) :
    ∃ grown ∈ (run {} (rows.take (row + 1 + count))).portions,
      grown.path = portion.path ∧ grown.start = portion.start ∧
        ∃ later, grown.parameters = portion.parameters ++ later ∧
          ∀ parameter ∈ later, (row : Int) < parameter.start.row := by
  induction count with
  | zero => exact ⟨portion, portion?_mem here, rfl, rfl, [], by simp, by simp⟩
  | succ count ih =>
      obtain ⟨grown, member, path, start, later, parameters, below⟩ := ih (Nat.le_of_succ_le bound)
      have next : rows[row + 1 + count]? = some rows[row + 1 + count] :=
        List.getElem?_eq_getElem bound
      have grows := grows_step (run_take_succ next ▸ orderly_take orderly (row + 1 + count + 1))
      rw [← run_take_succ next, row_run_take next] at grows
      obtain ⟨last, inside, samePath, sameStart, added, more, there⟩ := grows.extend member
      refine ⟨last, inside, samePath.trans path, sameStart.trans start, later ++ added, ?_, ?_⟩
      · rw [more, parameters, List.append_assoc]
      · rw [List.forall_mem_append]
        refine ⟨below, fun parameter within => ?_⟩
        have position := there parameter within
        omega

end Run

end State

inductive Holds (outline : List TopBlock) : List Text → Block → Prop
  | top {top : TopBlock} (member : top ∈ outline) : Holds outline [top.name] top.toBlock
  | sub {top : TopBlock} {block : Block} (member : top ∈ outline)
      (inside : block ∈ top.children) : Holds outline [top.name, block.name] block

theorem mem_portions_iff {outline : List TopBlock} {portion : Portion} :
    portion ∈ outline.flatMap TopBlock.portions ↔
      ∃ path block, Holds outline path block ∧ portion = block.portion path := by
  rw [List.mem_flatMap]
  constructor
  · rintro ⟨top, member, inside⟩
    rcases List.mem_cons.mp inside with rfl | below
    · exact ⟨_, _, .top member, rfl⟩
    · obtain ⟨block, child, rfl⟩ := List.mem_map.mp below
      exact ⟨_, _, .sub member child, rfl⟩
  · rintro ⟨path, block, holds, rfl⟩
    cases holds with
    | @top top member => exact ⟨top, member, List.mem_cons_self⟩
    | @sub top block member inside =>
        exact ⟨top, member, List.mem_cons_of_mem _ (List.mem_map_of_mem inside)⟩

end Outline

namespace Document

open Outline

variable {doc : Document} {path : List Text} {block : Block}

theorem portions_outline (doc : Document) :
    doc.outline.flatMap TopBlock.portions = (State.run {} doc.rows).portions := by
  have ended := State.current_finish (State.run {} doc.rows)
  rw [← State.portions_finish, State.portions, ended]
  simp [outline, Outline.read]

/-- A parameter of a block is what its row reads, and down to that row the block, which is the
innermost open one there, has been given what stands before the parameter. -/
theorem traced_of_holds (orderly : Orderly doc.structuralDiagnostics)
    (holds : Holds doc.outline path block) : State.Traced doc.rows (block.portion path) := by
  have member : block.portion path ∈ doc.outline.flatMap TopBlock.portions :=
    mem_portions_iff.mpr ⟨path, block, holds, rfl⟩
  rw [portions_outline] at member
  have traced := State.traced_take orderly doc.rows.length (Nat.le_refl _)
  rw [List.take_length] at traced
  exact traced _ member

theorem exists_holds_of_portion? (orderly : Orderly doc.structuralDiagnostics) {row : Nat}
    (bound : row < doc.rows.length) {portion : Portion}
    (here : (State.run {} (doc.rows.take (row + 1))).portion? = some portion) :
    ∃ block, Holds doc.outline portion.path block ∧ block.start = portion.start ∧
      ∃ later, block.parameters = portion.parameters ++ later ∧
        ∀ parameter ∈ later, (row : Int) < parameter.start.row := by
  obtain ⟨grown, member, path, start, later, parameters, below⟩ :=
    State.exists_grown_take orderly here (doc.rows.length - (row + 1)) (by omega)
  rw [List.take_of_length_le (by omega), ← portions_outline, mem_portions_iff] at member
  obtain ⟨_, block, holds, rfl⟩ := member
  exact ⟨block, path ▸ holds, start, later, parameters, below⟩

theorem holds_inj (orderly : Orderly doc.structuralDiagnostics) {other : Block}
    {otherPath : List Text} (holds : Holds doc.outline path block)
    (again : Holds doc.outline otherPath other) (same : block.start = other.start) :
    block.portion path = other.portion otherPath := by
  have ascending := (State.ascending_run (State.orderly_of_finish orderly)).ordered
  rw [← portions_outline] at ascending
  have distinct : ((doc.outline.flatMap TopBlock.portions).map (·.start)).Nodup := by
    rw [List.Nodup, List.pairwise_map]
    exact ascending.imp fun before same => Int.ne_of_lt before (congrArg Position.row same)
  exact List.inj_on_of_nodup_map distinct (mem_portions_iff.mpr ⟨path, block, holds, rfl⟩)
    (mem_portions_iff.mpr ⟨otherPath, other, again, rfl⟩) same

end Document

end InputDeck
