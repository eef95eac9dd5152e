import InputDeck.Document
import InputDeck.Line
import InputDeck.Outline.Basic

/-!
Reading an outline row by row.  A tag that does not fit is reported, and reading goes on with
the blocks closed or supplied that would make it fit.
-/

namespace InputDeck

namespace Outline

/-- What has been read of a document.  The open blocks are the last ones of the outline. -/
structure State where
  row : Nat := 0
  rowEnd : Position := ⟨0, 0⟩
  contentEnd : Option Position := none
  closed : List TopBlock := []
  current : Option OpenTop := none
  found : List Diagnostic := []
deriving DecidableEq, Repr

namespace State

def depth (state : State) : Nat :=
  match state.current with
  | none => 0
  | some top => top.depth

def report (state : State) (diagnostic : Diagnostic) : State :=
  { state with found := state.found ++ [diagnostic] }

def reportDuplicate (state : State) (siblings : List Text) (name : Text)
    (start stop : Position) : State :=
  if siblings.contains name then
    state.report { problem := .duplicateBlock name, start, stop }
  else
    state

def closingRows (depth : Nat) : Text :=
  (List.replicate (depth - 1) "[../]\n".toList).flatten ++ "[]\n".toList

def closingTail (depth : Nat) : Text :=
  (List.replicate (depth - 1) "\n[../]".toList).flatten ++ "\n[]".toList

/-- Opens a block, closing what is still open at the end of the row before. -/
def openTop (state : State) (name : Text) (start stop : Position) : State :=
  let state :=
    match state.current with
    | none => state
    | some top =>
        let state := state.report {
          problem := .openedBeforeClosed, start, stop,
          correction := some (.insertBefore (closingRows top.depth)) }
        { state with closed := state.closed ++ [top.close state.rowEnd], current := none }
  let state := state.reportDuplicate (state.closed.map (·.name)) name start stop
  { state with current := some { block := { name, start } } }

def closeTop (state : State) (start stop : Position) : State :=
  match state.current with
  | none => state.report { problem := .closedBeforeOpened, start, stop }
  | some top =>
      let state :=
        if top.sub.isSome then
          state.report {
            problem := .closedBeforeChild, start, stop,
            correction := some (.insertBefore "[../]\n".toList) }
        else
          state
      { state with closed := state.closed ++ [top.close stop], current := none }

def openSubOf (state : State) (top : OpenTop) (name : Text) (start stop : Position) : State :=
  let state := state.reportDuplicate (top.children.map (·.name)) name start stop
  { state with current := some { top with sub := some { name, start } } }

/-- Opens a sub-block.  Outside every block it gets an enclosing block without a name. -/
def openSub (state : State) (name : Text) (start stop : Position) : State :=
  match state.current with
  | none =>
      let state := state.report { problem := .childOutside, start, stop }
      state.openSubOf { block := { name := [], start } } name start stop
  | some top =>
      if top.sub.isSome then
        let state := state.report {
          problem := .childBeforeClosed, start, stop,
          correction := some (.insertBefore "[../]\n".toList) }
        state.openSubOf (top.closeSub state.rowEnd) name start stop
      else
        state.openSubOf top name start stop

def closeSub (state : State) (start stop : Position) : State :=
  match state.current with
  | none => state.report { problem := .childClosedOutside, start, stop }
  | some top =>
      if top.sub.isSome then
        { state with current := some (top.closeSub stop) }
      else
        state.report { problem := .childClosedInBlock, start, stop }

/-- Adds a parameter to the innermost open block; outside every block it is passed over. -/
def addParameter (state : State) (name : Text) (value : Option Placed)
    (start stop : Position) : State :=
  match state.current with
  | none => state
  | some top =>
      let state :=
        if (findParameter? top.innermost.parameters name).isSome then
          state.report {
            problem := .duplicateParameter name, start,
            stop := ⟨start.row, start.column + name.length⟩ }
        else
          state
      { state with current := some (top.addParameter { name, value, start, stop }) }

def accept (state : State) (line : Line) : State :=
  let start : Position := ⟨state.row, line.indent⟩
  let stop : Position := ⟨state.row, line.stop⟩
  match line.content with
  | .openTop name => state.openTop name start stop
  | .closeTop => state.closeTop start stop
  | .openSub name => state.openSub name start stop
  | .closeSub => state.closeSub start stop
  | .parameter name value => state.addParameter name value start stop
  | .comment | .blank | .other => state

def step (state : State) (text : Text) : State :=
  let line := Line.read text
  let next := state.accept line
  let rowEnd : Position := ⟨state.row, text.length⟩
  { next with
    row := state.row + 1,
    rowEnd,
    contentEnd := if line.content.isBlank then state.contentEnd else some rowEnd }

def run (state : State) (rows : List Text) : State :=
  rows.foldl step state

def finish (state : State) : State :=
  match state.current with
  | none => state
  | some top =>
      let stop := state.contentEnd.getD ⟨0, 0⟩
      let state := state.report {
        problem := .unclosed, start := ⟨stop.row, 0⟩, stop,
        correction := some (.insertAfter (closingTail top.depth)) }
      { state with closed := state.closed ++ [top.close stop], current := none }

@[simp]
theorem run_nil (state : State) : state.run [] = state := rfl

@[simp]
theorem run_cons (state : State) (row : Text) (rows : List Text) :
    state.run (row :: rows) = (state.step row).run rows := rfl

theorem run_append (state : State) (first second : List Text) :
    state.run (first ++ second) = (state.run first).run second :=
  List.foldl_append

end State

def read (rows : List Text) : State :=
  (State.run {} rows).finish

end Outline

def Document.outline (doc : Document) : List Outline.TopBlock :=
  (Outline.read doc.rows).closed

def Document.structuralDiagnostics (doc : Document) : List Diagnostic :=
  (Outline.read doc.rows).found

end InputDeck
