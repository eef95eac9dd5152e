import InputDeck.Proofs.Outline.Ending
import InputDeck.Proofs.Text.Rows

/-!
A text below another one.  Where the blocks of the first text are all closed in turn, reading goes
on as if it had begun below it: the blocks of the second text follow those of the first, and the
same is found about the way they open and close, so many rows further down.
-/

namespace InputDeck

/-! Places that are moved down by a number of rows. -/

def Position.shift (count : Nat) (position : Position) : Position :=
  ⟨position.row + count, position.column⟩

def Diagnostic.shift (count : Nat) (diagnostic : Diagnostic) : Diagnostic :=
  { diagnostic with
    start := diagnostic.start.shift count, stop := diagnostic.stop.shift count }

namespace Outline

def Parameter.shift (count : Nat) (parameter : Parameter) : Parameter :=
  { parameter with start := parameter.start.shift count, stop := parameter.stop.shift count }

def Block.shift (count : Nat) (block : Block) : Block :=
  { block with
    start := block.start.shift count, stop := block.stop.shift count,
    parameters := block.parameters.map (Parameter.shift count) }

def TopBlock.shift (count : Nat) (top : TopBlock) : TopBlock :=
  { top with
    toBlock := top.toBlock.shift count, children := top.children.map (Block.shift count) }

def OpenBlock.shift (count : Nat) (block : OpenBlock) : OpenBlock :=
  { block with
    start := block.start.shift count, parameters := block.parameters.map (Parameter.shift count) }

def OpenTop.shift (count : Nat) (top : OpenTop) : OpenTop where
  block := top.block.shift count
  children := top.children.map (Block.shift count)
  sub := top.sub.map (OpenBlock.shift count)

namespace OpenTop

variable (count : Nat) (top : OpenTop)

theorem shift_closeSub (stop : Position) :
    (top.closeSub stop).shift count = (top.shift count).closeSub (stop.shift count) := by
  cases sub : top.sub <;>
    simp [closeSub, shift, sub, OpenBlock.close, OpenBlock.shift, Block.shift]

theorem shift_close (stop : Position) :
    (top.close stop).shift count = (top.shift count).close (stop.shift count) := by
  cases sub : top.sub <;>
    simp [close, closeSub, shift, sub, OpenBlock.close, OpenBlock.shift, Block.shift,
      TopBlock.shift]

theorem depth_shift : (top.shift count).depth = top.depth := by
  simp [depth, shift]

theorem isSome_sub_shift : (top.shift count).sub.isSome = top.sub.isSome := by
  simp [shift]

theorem shift_addParameter (parameter : Parameter) :
    (top.addParameter parameter).shift count =
      (top.shift count).addParameter (parameter.shift count) := by
  cases sub : top.sub <;> simp [addParameter, shift, sub, OpenBlock.shift]

end OpenTop

namespace State

/-- Two readings that have read the same rows.  The joined one has read some blocks before, and so
many rows with them. -/
structure Below (before : List TopBlock) (count : Nat) (alone joined : State) : Prop where
  closed : joined.closed = before ++ alone.closed.map (TopBlock.shift count)
  current : joined.current = alone.current.map (OpenTop.shift count)
  closures : joined.closures = alone.closures.map (Diagnostic.shift count)

namespace Below

variable {before : List TopBlock} {count : Nat} {alone joined : State} {top : OpenTop}

theorem report (below : Below before count alone joined) (diagnostic : Diagnostic)
    (closure : diagnostic.kind = .closure) :
    Below before count (alone.report diagnostic) (joined.report (diagnostic.shift count)) where
  closed := below.closed
  current := below.current
  closures := by
    have shifted : (diagnostic.shift count).kind = .closure := closure
    rw [closures_report alone closure, closures_report joined shifted, below.closures,
      List.map_append, List.map_singleton]

theorem report_left (below : Below before count alone joined) {diagnostic : Diagnostic}
    (other : diagnostic.kind ≠ .closure) : Below before count (alone.report diagnostic) joined :=
  ⟨below.closed, below.current, by rw [closures_report_other alone other, below.closures]⟩

theorem report_right (below : Below before count alone joined) {diagnostic : Diagnostic}
    (other : diagnostic.kind ≠ .closure) : Below before count alone (joined.report diagnostic) :=
  ⟨below.closed, below.current, by rw [closures_report_other joined other, below.closures]⟩

theorem reportDuplicate (below : Below before count alone joined) (siblings others : List Text)
    (name : Text) (start stop : Position) :
    Below before count (alone.reportDuplicate siblings name start stop)
      (joined.reportDuplicate others name (start.shift count) (stop.shift count)) := by
  have other (first last : Position) :
      ({ problem := .duplicateBlock name, start := first, stop := last } : Diagnostic).kind ≠
        .closure := by
    simp [Diagnostic.kind, Problem.kind]
  have left : Below before count (alone.reportDuplicate siblings name start stop) joined := by
    rw [State.reportDuplicate]
    split
    · exact below.report_left (other start stop)
    · exact below
  rw [State.reportDuplicate.eq_def joined]
  split
  · exact left.report_right (other _ _)
  · exact left

theorem withCurrent (below : Below before count alone joined) (current : Option OpenTop) :
    Below before count { alone with current }
      { joined with current := current.map (OpenTop.shift count) } :=
  ⟨below.closed, rfl, below.closures⟩

theorem close (below : Below before count alone joined) (top : OpenTop) (stop : Position) :
    Below before count
      { alone with closed := alone.closed ++ [top.close stop], current := none }
      { joined with
        closed := joined.closed ++ [(top.shift count).close (stop.shift count)],
        current := none } where
  closed := by simp [below.closed, OpenTop.shift_close]
  current := rfl
  closures := below.closures

section Rows

variable {name : Text} {start stop : Position}

theorem current_of_none (below : Below before count alone joined)
    (current : alone.current = none) : joined.current = none := by
  rw [below.current, current, Option.map_none]

theorem current_of_some (below : Below before count alone joined)
    (current : alone.current = some top) : joined.current = some (top.shift count) := by
  rw [below.current, current, Option.map_some]

theorem openTop (below : Below before count alone joined)
    (ended : alone.current ≠ none → joined.rowEnd = alone.rowEnd.shift count) :
    Below before count (alone.openTop name start stop)
      (joined.openTop name (start.shift count) (stop.shift count)) := by
  unfold State.openTop
  cases current : alone.current with
  | none =>
      rw [below.current_of_none current]
      exact (below.reportDuplicate _ _ name start stop).withCurrent
        (some { block := { name, start } })
  | some top =>
      rw [below.current_of_some current]
      have shut := (below.report {
        problem := .openedBeforeClosed, start, stop,
        correction := some (.insertBefore (closingRows top.depth)) } rfl).close top alone.rowEnd
      rw [← ended (by simp [current])] at shut
      simp only [OpenTop.depth_shift]
      exact (shut.reportDuplicate _ _ name start stop).withCurrent
        (some { block := { name, start } })

theorem closeTop (below : Below before count alone joined) :
    Below before count (alone.closeTop start stop)
      (joined.closeTop (start.shift count) (stop.shift count)) := by
  unfold State.closeTop
  cases current : alone.current with
  | none =>
      rw [below.current_of_none current]
      exact below.report _ rfl
  | some top =>
      rw [below.current_of_some current]
      simp only [OpenTop.isSome_sub_shift]
      split
      · exact (below.report _ rfl).close top stop
      · exact below.close top stop

theorem openSubOf (below : Below before count alone joined) (top : OpenTop) (name : Text)
    (start stop : Position) :
    Below before count (alone.openSubOf top name start stop)
      (joined.openSubOf (top.shift count) name (start.shift count) (stop.shift count)) :=
  (below.reportDuplicate _ _ name start stop).withCurrent
    (some { top with sub := some { name, start } })

theorem openSub (below : Below before count alone joined)
    (ended : alone.current ≠ none → joined.rowEnd = alone.rowEnd.shift count) :
    Below before count (alone.openSub name start stop)
      (joined.openSub name (start.shift count) (stop.shift count)) := by
  unfold State.openSub
  cases current : alone.current with
  | none =>
      rw [below.current_of_none current]
      exact (below.report _ rfl).openSubOf { block := { name := [], start } } name start stop
  | some top =>
      rw [below.current_of_some current]
      simp only [OpenTop.isSome_sub_shift]
      split
      · have shut : (top.shift count).closeSub joined.rowEnd =
            (top.closeSub alone.rowEnd).shift count := by
          rw [ended (by simp [current]), OpenTop.shift_closeSub]
        have reported := below.report {
          problem := .childBeforeClosed, start, stop,
          correction := some (.insertBefore "[../]\n".toList) } rfl
        have opened := reported.openSubOf (top.closeSub alone.rowEnd) name start stop
        rw [← shut] at opened
        exact opened
      · exact below.openSubOf top name start stop

theorem closeSub (below : Below before count alone joined) :
    Below before count (alone.closeSub start stop)
      (joined.closeSub (start.shift count) (stop.shift count)) := by
  unfold State.closeSub
  cases current : alone.current with
  | none =>
      rw [below.current_of_none current]
      exact below.report _ rfl
  | some top =>
      rw [below.current_of_some current]
      simp only [OpenTop.isSome_sub_shift, ← OpenTop.shift_closeSub]
      split
      · exact below.withCurrent (some (top.closeSub stop))
      · exact below.report _ rfl

theorem addParameter (below : Below before count alone joined) (value : Option Placed) :
    Below before count (alone.addParameter name value start stop)
      (joined.addParameter name value (start.shift count) (stop.shift count)) := by
  unfold State.addParameter
  cases current : alone.current with
  | none =>
      rw [below.current_of_none current]
      exact below
  | some top =>
      rw [below.current_of_some current]
      have given := OpenTop.shift_addParameter count top { name, value, start, stop }
      have other (first last : Position) :
          ({ problem := .duplicateParameter name, start := first, stop := last } :
            Diagnostic).kind ≠ .closure := by
        simp [Diagnostic.kind, Problem.kind]
      have added (next last : State) (same : Below before count next last) :
          Below before count
            { next with current := some (top.addParameter { name, value, start, stop }) }
            { last with
              current := some ((top.shift count).addParameter
                { name, value, start := start.shift count, stop := stop.shift count }) } := by
        have placed := same.withCurrent (some (top.addParameter { name, value, start, stop }))
        rw [Option.map_some, given] at placed
        exact placed
      dsimp only
      split <;> split
      · exact added _ _ ((below.report_left (other _ _)).report_right (other _ _))
      · exact added _ _ (below.report_left (other _ _))
      · exact added _ _ (below.report_right (other _ _))
      · exact added _ _ below

end Rows

end Below

/-- The joined reading goes on as the other one does.  Where the rows end that both have read does
not matter while nothing is open: there the joined text may still end in a row of the upper one. -/
structure Continues (before : List TopBlock) (count : Nat) (alone joined : State) : Prop
    extends Below before count alone joined where
  row : joined.row = alone.row + count
  ended : alone.current ≠ none → joined.rowEnd = alone.rowEnd.shift count ∧
    ∃ stop, alone.contentEnd = some stop ∧ joined.contentEnd = some (stop.shift count)

namespace Continues

variable {before : List TopBlock} {count : Nat} {alone joined : State}

theorem accept (continues : Continues before count alone joined) (line : Line) :
    Below before count (alone.accept line) (joined.accept line) := by
  have below := continues.toBelow
  have ended := fun opened => (continues.ended opened).1
  have place (column : Nat) :
      (⟨joined.row, column⟩ : Position) = Position.shift count ⟨alone.row, column⟩ := by
    simp [Position.shift, continues.row]
  unfold State.accept
  simp only [place]
  cases line.content with
  | openTop name => exact below.openTop ended
  | closeTop => exact below.closeTop
  | openSub name => exact below.openSub ended
  | closeSub => exact below.closeSub
  | parameter name value => exact below.addParameter value
  | comment | blank | other => exact below

theorem step (continues : Continues before count alone joined) (text : Text) :
    Continues before count (alone.step text) (joined.step text) := by
  obtain ⟨closed, current, closures⟩ := continues.accept (Line.read text)
  have rowEnd : (joined.step text).rowEnd = (alone.step text).rowEnd.shift count := by
    simp [State.step, Position.shift, continues.row]
  refine ⟨⟨closed, current, closures⟩, ?_, fun opened => ⟨rowEnd, ?_⟩⟩
  · have row := continues.row
    simp only [State.step]
    omega
  · cases blank : (Line.read text).content.isBlank with
    | false =>
        refine ⟨(alone.step text).rowEnd, by simp [State.step, blank], ?_⟩
        rw [← rowEnd]
        simp [State.step, blank]
    | true =>
        have content : (Line.read text).content = .blank := by
          cases content : (Line.read text).content <;> simp [content, Content.isBlank] at blank ⊢
        have before : alone.current ≠ none := by
          simpa [State.step, State.accept, content] using opened
        obtain ⟨-, stop, first, second⟩ := continues.ended before
        exact ⟨stop, by simp [State.step, blank, first], by simp [State.step, blank, second]⟩

theorem run (continues : Continues before count alone joined) (rows : List Text) :
    Continues before count (alone.run rows) (joined.run rows) := by
  induction rows generalizing alone joined with
  | nil => exact continues
  | cons text rows ih => exact ih (continues.step text)

theorem finish (continues : Continues before count alone joined) :
    Below before count alone.finish joined.finish := by
  have below := continues.toBelow
  unfold State.finish
  cases current : alone.current with
  | none =>
      rw [below.current_of_none current]
      exact below
  | some top =>
      obtain ⟨-, stop, first, second⟩ := continues.ended (by simp [current])
      rw [below.current_of_some current]
      simp only [first, second, Option.getD_some, OpenTop.depth_shift]
      exact (below.report _ rfl).close top stop

theorem initial {joined : State} (current : joined.current = none)
    (faultless : joined.closures = []) : Continues joined.closed joined.row {} joined where
  closed := (List.append_nil _).symm
  current := current
  closures := faultless
  row := (Nat.zero_add _).symm
  ended := fun opened => absurd rfl opened

end Continues

theorem finish_eq_of_closures {state : State} (faultless : state.finish.closures = []) :
    state.finish = state ∧ state.current = none := by
  cases current : state.current with
  | none => exact ⟨finish_of_none current, rfl⟩
  | some top =>
      rw [closures_finish] at faultless
      simp [unclosed, current] at faultless

end State

theorem below_read_append {first : List Text} (faultless : (read first).closures = [])
    (second : List Text) :
    State.Below (read first).closed first.length (read second) (read (first ++ second)) := by
  obtain ⟨finished, shut⟩ := State.finish_eq_of_closures faultless
  have row : (State.run {} first).row = first.length := by simp [State.row_run]
  rw [read, finished] at faultless
  have continues := (State.Continues.initial shut faultless).run second
  rw [row] at continues
  rw [read, finished, read, read, State.run_append]
  exact continues.finish

end Outline

namespace Document

/-- What is found about the way blocks open and close. -/
def closureDiagnostics (doc : Document) : List Diagnostic :=
  doc.structuralDiagnostics.filter (fun diagnostic => diagnostic.kind == .closure)

def rowCount (text : Text) : Nat :=
  (Text.splitOn '\n' text).length

/-- Texts are read one by one: below a text whose blocks are all closed in turn, whatever stands
there opens and closes the same blocks as it does alone, and the same is found about it. -/
theorem outline_ofText_append (first second path : Text)
    (faultless : (ofText first path).closureDiagnostics = []) :
    (ofText (first ++ '\n' :: second) path).outline =
        (ofText first path).outline ++
          (ofText second path).outline.map (Outline.TopBlock.shift (rowCount first)) ∧
      (ofText (first ++ '\n' :: second) path).closureDiagnostics =
        (ofText second path).closureDiagnostics.map (Diagnostic.shift (rowCount first)) := by
  have rows : (ofText (first ++ '\n' :: second) path).rows =
      (ofText first path).rows ++ (ofText second path).rows :=
    Text.splitOn_append_cons '\n' first second
  have below := Outline.below_read_append faultless (ofText second path).rows
  rw [← rows] at below
  exact ⟨below.closed, below.closures⟩

theorem outline_below_closed_block :
    (ofText "[A]\n[]".toList unnamed).closureDiagnostics = [] ∧
      (ofText "[A]\n[]\n[./b]\nx = 1\n[C]".toList unnamed).outline =
        (ofText "[A]\n[]".toList unnamed).outline ++
          (ofText "[./b]\nx = 1\n[C]".toList unnamed).outline.map (Outline.TopBlock.shift 2) ∧
      (ofText "[A]\n[]\n[./b]\nx = 1\n[C]".toList unnamed).closureDiagnostics =
        (ofText "[./b]\nx = 1\n[C]".toList unnamed).closureDiagnostics.map
          (Diagnostic.shift 2) := by
  have faultless : (ofText "[A]\n[]".toList unnamed).closureDiagnostics = [] := by
    decide +kernel
  exact ⟨faultless,
    outline_ofText_append "[A]\n[]".toList "[./b]\nx = 1\n[C]".toList unnamed faultless⟩

end Document

end InputDeck
