import InputDeck.Diagnostic
import InputDeck.Document
import InputDeck.Line

/-!
Layout: block tags stand one tab left of what they enclose, parameters and comments one tab
right of their block, and no two blank rows follow each other.  Rows of no known form are left
alone.
-/

namespace InputDeck

namespace Layout

/-- What the layout check carries from row to row: the depth that the tags give, and where the
blank rows end that were read last. -/
structure State where
  row : Nat := 0
  depth : Nat := 0
  blanks : List Position := []
  found : List Diagnostic := []
deriving DecidableEq, Repr

/-- The level at which a row has to stand, if it has to stand anywhere. -/
def expectedLevel (depth : Nat) : Content → Option Nat
  | .openTop _ | .closeTop => some 0
  | .openSub _ => some 1
  | .closeSub => some (if 0 < depth then 1 else 0)
  | .parameter _ _ | .comment => some depth
  | .blank | .other => none

def depthAfter (depth : Nat) : Content → Nat
  | .openTop _ => 1
  | .closeTop => 0
  | .openSub _ => 2
  | .closeSub => min depth 1
  | .parameter _ _ | .comment | .blank | .other => depth

/-- White space for a level; a width that is not positive gives none. -/
def indentation (width : Int) (level : Nat) : Text :=
  List.replicate (level * width).toNat ' '

def blankRun : List Position → List Diagnostic
  | first :: second :: rest => [{
      problem := .blankRun, start := first, stop := (second :: rest).getLast (by simp),
      correction := some (.replace []) }]
  | _ => []

def misplaced (width : Int) (row : Nat) (level : Nat) (text : Text) : List Diagnostic :=
  let indent := text.takeWhile Text.isBlank
  let wanted := indentation width level
  if indent = wanted then
    []
  else [{
    problem := .indentation wanted.length,
    start := ⟨row, 0⟩, stop := ⟨row, indent.length⟩,
    correction := some (.replace wanted) }]

namespace State

def step (width : Int) (state : State) (text : Text) : State :=
  let content := (Line.read text).content
  if content.isBlank then
    { state with
      row := state.row + 1,
      blanks := state.blanks ++ [⟨state.row, text.length⟩] }
  else
    { row := state.row + 1,
      depth := depthAfter state.depth content,
      blanks := [],
      found := state.found ++ blankRun state.blanks ++
        match expectedLevel state.depth content with
        | some level => misplaced width state.row level text
        | none => [] }

def run (width : Int) (state : State) (rows : List Text) : State :=
  rows.foldl (step width) state

def finish (state : State) : List Diagnostic :=
  state.found ++ blankRun state.blanks

@[simp]
theorem run_nil (width : Int) (state : State) : state.run width [] = state := rfl

@[simp]
theorem run_cons (width : Int) (state : State) (row : Text) (rows : List Text) :
    state.run width (row :: rows) = (state.step width row).run width rows := rfl

theorem run_append (width : Int) (state : State) (first second : List Text) :
    state.run width (first ++ second) = (state.run width first).run width second :=
  List.foldl_append

end State

end Layout

def Document.layoutDiagnostics (doc : Document) (width : Int) : List Diagnostic :=
  (Layout.State.run width {} doc.rows).finish

end InputDeck
