import InputDeck.Proofs.Layout.Findings
import InputDeck.Proofs.Outline.Placement
import InputDeck.Proofs.Outline.Stack

/-!
The levels of rows.  The layout check carries no more than a number from row to row, yet at every
row that is the number of blocks that are open there, whatever is wrong with the tags.  So rows have
to stand where the outline puts them: a parameter one tab for each block around it, and the tags of
a block where a parameter of the enclosing block would.
-/

namespace InputDeck

namespace Outline.State

theorem depth_openTop (state : State) (name : Text) (start stop : Position) :
    (state.openTop name start stop).depth = 1 := rfl

theorem depth_closeTop (state : State) (start stop : Position) :
    (state.closeTop start stop).depth = 0 := by
  cases current : state.current <;> simp [closeTop, depth, current, report]

theorem depth_openSub (state : State) (name : Text) (start stop : Position) :
    (state.openSub name start stop).depth = 2 := by
  cases current : state.current with
  | none => simp [openSub, current, openSubOf, depth, OpenTop.depth]
  | some top =>
      cases opened : top.sub <;>
        simp [openSub, current, opened, openSubOf, depth, OpenTop.depth]

theorem depth_closeSub (state : State) (start stop : Position) :
    (state.closeSub start stop).depth = min state.depth 1 := by
  cases current : state.current with
  | none => simp [closeSub, depth, current, report]
  | some top =>
      cases opened : top.sub <;>
        simp [closeSub, depth, current, opened, report, OpenTop.depth, OpenTop.closeSub]

theorem depth_addParameter (state : State) (name : Text) (value : Option Placed)
    (start stop : Position) : (state.addParameter name value start stop).depth = state.depth := by
  cases current : state.current with
  | none => simp [addParameter, depth, current]
  | some top =>
      cases opened : top.sub <;>
        simp [addParameter, depth, current, opened, OpenTop.depth, OpenTop.addParameter]

theorem depth_step (state : State) (text : Text) :
    (state.step text).depth = Layout.depthAfter state.depth (Line.read text).content := by
  have accepted : (state.step text).depth = (state.accept (Line.read text)).depth := rfl
  rw [accepted, accept]
  cases (Line.read text).content with
  | openTop name => exact depth_openTop state name _ _
  | closeTop => exact depth_closeTop state _ _
  | openSub name => exact depth_openSub state name _ _
  | closeSub => exact depth_closeSub state _ _
  | parameter name value => exact depth_addParameter state name value _ _
  | comment | blank | other => rfl

theorem length_stack_reader (state : State) : state.reader.stack.length = state.depth := by
  cases current : state.current with
  | none => simp [reader, depth, current]
  | some top =>
      rw [stack_of_current state current, OpenTop.length_addresses, depth, current]

end Outline.State

namespace Layout

theorem State.depth_step (width : Int) (state : State) (text : Text) :
    (state.step width text).depth = depthAfter state.depth (Line.read text).content := by
  unfold State.step
  cases blank : (Line.read text).content.isBlank with
  | true =>
      simp [Content.eq_blank_of_isBlank blank, Content.isBlank, depthAfter]
  | false => simp [blank]

theorem depth_run (width : Int) (rows : List Text) :
    (State.run width {} rows).depth = (Outline.State.run {} rows).depth := by
  induction rows using List.reverseRecOn with
  | nil => rfl
  | append_singleton rows row ih =>
      rw [State.run_append, Outline.State.run_append]
      simp only [State.run_cons, State.run_nil, Outline.State.run_cons, Outline.State.run_nil]
      rw [State.depth_step, Outline.State.depth_step, ih]

section Rows

variable {rows : List Text} {row : Nat} {text : Text}

theorem row_run (width : Int) (state : State) (rows : List Text) :
    (state.run width rows).row = state.row + rows.length := by
  induction rows generalizing state with
  | nil => rfl
  | cons text rows ih =>
      have next : (state.step width text).row = state.row + 1 := by
        unfold State.step
        dsimp only
        split
        · rfl
        · rfl
      rw [State.run_cons, ih, next, List.length_cons]
      omega

theorem foundFrom_split (width : Int) (here : rows[row]? = some text)
    (content : (Line.read text).content.isBlank = false) :
    ∃ depth, foundFrom width 0 0 [] rows =
      foundFrom width 0 0 [] (rows.take row) ++
        (foundAt width row (Outline.State.run {} (rows.take row)).depth text ++
          foundFrom width (row + 1) depth [] (rows.drop (row + 1))) := by
  obtain ⟨bound, rfl⟩ := List.getElem?_eq_some_iff.mp here
  have before : (State.run width {} (rows.take row)).row = row := by
    rw [row_run, List.length_take]
    simp only
    omega
  have split : foundFrom width 0 0 [] rows =
      ((State.run width {} (rows.take row)).run width
        (rows[row] :: rows.drop (row + 1))).finish := by
    rw [← State.run_append, List.cons_getElem_drop_succ, List.take_append_drop]
    rfl
  have whole : foundFrom width 0 0 [] (rows.take row) =
      (State.run width {} (rows.take row)).found ++
        blankRun (State.run width {} (rows.take row)).blanks := rfl
  rw [split, finish_run, foundFrom_content content, before, depth_run, whole]
  exact ⟨_, (List.append_assoc _ _ _).symm⟩

theorem filter_found_eq (width : Int) (here : rows[row]? = some text)
    (content : (Line.read text).content.isBlank = false) :
    (foundFrom width 0 0 [] rows).filter
        (fun diagnostic => decide (diagnostic.start.row = (row : Int))) =
      foundAt width row (Outline.State.run {} (rows.take row)).depth text := by
  obtain ⟨depth, split⟩ := foundFrom_split width here content
  have before : ∀ diagnostic ∈ foundFrom width 0 0 [] (rows.take row),
      ¬ decide (diagnostic.start.row = (row : Int)) = true := by
    intro diagnostic member
    obtain ⟨other, found, inside, start⟩ := startInRows_foundFrom width _ diagnostic member
    have bound := (List.getElem?_eq_some_iff.mp inside).1
    rw [List.length_take] at bound
    simp only [start, findingStart, decide_eq_true_eq]
    omega
  have after : ∀ diagnostic ∈ foundFrom width (row + 1) depth [] (rows.drop (row + 1)),
      ¬ decide (diagnostic.start.row = (row : Int)) = true := by
    intro diagnostic member
    obtain ⟨other, found, below, -, start⟩ :=
      start_of_mem_foundFrom (row + 1) [] rfl (by simp) member
    simp only [start, findingStart, decide_eq_true_eq]
    omega
  have there : ∀ diagnostic ∈
      foundAt width row (Outline.State.run {} (rows.take row)).depth text,
      decide (diagnostic.start.row = (row : Int)) = true := by
    intro diagnostic member
    rw [start_of_mem_foundAt member]
    exact decide_eq_true rfl
  rw [split, List.filter_append, List.filter_append, List.filter_eq_nil_iff.mpr before,
    List.filter_eq_self.mpr there, List.filter_eq_nil_iff.mpr after, List.nil_append,
    List.append_nil]

end Rows

theorem indentation_natCast (width level : Nat) :
    indentation width level = List.replicate (level * width) ' ' := by
  rw [indentation, ← Int.natCast_mul, Int.toNat_natCast]

end Layout

def Level.closing : Level → Content
  | top => .closeTop
  | sub => .closeSub

namespace Document

open Outline

variable {doc : Document} {row : Nat} {text : Text}

/-- The layout check requires a row to start with some white space and no more. -/
def Requires (doc : Document) (width : Int) (row : Nat) (wanted : Text) : Prop :=
  ∃ text, doc.rows[row]? = some text ∧
    (doc.layoutDiagnostics width).filter
        (fun diagnostic => decide (diagnostic.start.row = (row : Int))) =
      let indent := text.takeWhile Text.isBlank
      if indent = wanted then []
      else [{
        problem := .indentation wanted.length, start := ⟨row, 0⟩, stop := ⟨row, indent.length⟩,
        correction := some (.replace wanted) }]

theorem requires_of_expected (here : doc.rows[row]? = some text)
    (content : (Line.read text).content.isBlank = false) {level : Nat}
    (expected : Layout.expectedLevel (State.run {} (doc.rows.take row)).depth
      (Line.read text).content = some level) (width : Nat) :
    doc.Requires width row (List.replicate (level * width) ' ') := by
  refine ⟨text, here, ?_⟩
  rw [Layout.layoutDiagnostics_eq, Layout.filter_found_eq width here content, Layout.foundAt,
    expected, ← Layout.indentation_natCast]
  rfl

theorem requires_of_parameter {name : Text} {value : Option Placed}
    (here : doc.rows[row]? = some text)
    (reads : (Line.read text).content = .parameter name value) (width : Nat) :
    doc.Requires width row
      (List.replicate ((State.run {} (doc.rows.take row)).depth * width) ' ') := by
  apply requires_of_expected here
  · rw [reads]
    rfl
  · rw [reads]
    rfl

theorem requires_of_opening {level : Level} {name : Text} (here : doc.rows[row]? = some text)
    (reads : (Line.read text).content = level.opening name) (width : Nat) :
    doc.Requires width row (List.replicate ((level.depth - 1) * width) ' ') := by
  apply requires_of_expected here (Line.isBlank_of_opening reads)
  rw [reads]
  cases level <;> rfl

theorem requires_of_closing {level : Level} (here : doc.rows[row]? = some text)
    (reads : (Line.read text).content = level.closing)
    (inside : level.depth ≤ (State.run {} (doc.rows.take row)).depth) (width : Nat) :
    doc.Requires width row (List.replicate ((level.depth - 1) * width) ' ') := by
  apply requires_of_expected here
  · rw [reads]
    cases level <;> rfl
  · rw [reads]
    cases level with
    | top => rfl
    | sub =>
        have opened : 0 < (State.run {} (doc.rows.take row)).depth :=
          Nat.lt_of_lt_of_le Nat.zero_lt_two inside
        exact congrArg some (if_pos opened)

/-- The layout check keeps the depth of the outline, and requires rows to stand accordingly. -/
structure Leveled (doc : Document) : Prop where
  depth : ∀ (width : Int) (count : Nat), ∃ reader,
    Reader.run {} (doc.rows.take count) = some reader ∧
      (Layout.State.run width {} (doc.rows.take count)).depth = reader.stack.length
  parameters : ∀ path block, Holds doc.outline path block → ∀ parameter ∈ block.parameters,
    ∃ row : Nat, parameter.start.row = row ∧
      ∀ width : Nat, doc.Requires width row (List.replicate (path.length * width) ' ')
  outside : ∀ (row : Nat) text name value reader, doc.rows[row]? = some text →
    (Line.read text).content = .parameter name value →
    Reader.run {} (doc.rows.take row) = some reader → reader.stack = [] →
    ∀ width : Nat, doc.Requires width row []
  /-- The opening tag of a block stands one tab left of the level of the block. -/
  openings : ∀ path block, Holds doc.outline path block → path ≠ [[]] →
    ∃ (level : Level) (row : Nat) (text : Text), level.depth = path.length ∧
      block.start.row = row ∧ doc.rows[row]? = some text ∧
      (Line.read text).content = level.opening block.name ∧
      ∀ width : Nat, doc.Requires width row (List.replicate ((path.length - 1) * width) ' ')
  /-- So does a closing tag, where a block of its level is open. -/
  closings : ∀ (row : Nat) text (level : Level) reader, doc.rows[row]? = some text →
    (Line.read text).content = level.closing →
    Reader.run {} (doc.rows.take row) = some reader → level.depth ≤ reader.stack.length →
    ∀ width : Nat, doc.Requires width row (List.replicate ((level.depth - 1) * width) ' ')

theorem run_reader (rows : List Text) :
    Reader.run {} rows = some (State.run {} rows).reader :=
  State.reader_run {} rows

theorem leveled (doc : Document) : doc.Leveled where
  depth := by
    intro width count
    refine ⟨_, run_reader _, ?_⟩
    rw [Layout.depth_run, State.length_stack_reader]
  parameters := by
    intro path block holds parameter member
    obtain ⟨row, text, name, value, here, reads, rfl, level⟩ :=
      stands_of_holds holds parameter member
    refine ⟨row, rfl, fun width => ?_⟩
    rw [← level]
    exact requires_of_parameter here reads width
  outside := by
    intro row text name value reader here reads read empty width
    rw [run_reader] at read
    obtain rfl := Option.some.inj read
    have margin : (State.run {} (doc.rows.take row)).depth = 0 := by
      rw [← State.length_stack_reader, empty]
      rfl
    have required := requires_of_parameter here reads width
    rwa [margin, Nat.zero_mul] at required
  openings := by
    intro path block holds named
    obtain ⟨level, depth, row, text, here, opened, start⟩ := opensAt_of_holds holds named
    refine ⟨level, row, text, depth, by rw [start], here, opened, fun width => ?_⟩
    rw [← depth]
    exact requires_of_opening here opened width
  closings := by
    intro row text level reader here reads read inside width
    rw [run_reader] at read
    obtain rfl := Option.some.inj read
    rw [State.length_stack_reader] at inside
    exact requires_of_closing here reads inside width

end Document

end InputDeck
