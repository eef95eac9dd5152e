import InputDeck.Outline.Read

/-!
Reading an outline with a stack.  Blocks are kept in a tree that may have any depth, and the open
ones are addressed from a stack.  Reading so never gets stuck, and finds the same as reading with at
most one open block and one open sub-block.
-/

namespace InputDeck

namespace Outline

/-- A block with the blocks below it.  It has an end once it is closed. -/
structure Tree where
  name : Text
  level : Level
  start : Position
  stop : Option Position := none
  parameters : List Parameter := []
  children : List Tree := []
deriving Repr

/-- The way to a block: its place among the outermost blocks, then among their children. -/
abbrev Address := List Nat

namespace Tree

def at? : Address → List Tree → Option Tree
  | [], _ => none
  | [index], trees => trees[index]?
  | index :: next :: address, trees =>
      trees[index]?.bind fun tree => at? (next :: address) tree.children

def alter (change : Tree → Tree) : Address → List Tree → List Tree
  | [], trees => trees
  | [index], trees => trees.modify index change
  | index :: next :: address, trees =>
      trees.modify index fun tree =>
        { tree with children := alter change (next :: address) tree.children }

/-- The blocks directly below an address.  The empty address is above the outermost blocks. -/
def childrenAt : Address → List Tree → List Tree
  | [], trees => trees
  | address, trees => ((at? address trees).map (·.children)).getD []

/-- Adds a last block below an address. -/
def attach (tree : Tree) : Address → List Tree → List Tree
  | [], trees => trees ++ [tree]
  | address, trees =>
      alter (fun parent => { parent with children := parent.children ++ [tree] }) address trees

end Tree

/-- What has been read of a document, with the addresses of the open blocks, innermost first. -/
structure Reader where
  row : Nat := 0
  rowEnd : Position := ⟨0, 0⟩
  contentEnd : Option Position := none
  blocks : List Tree := []
  stack : List Address := []
  found : List Diagnostic := []
deriving Repr

namespace Reader

def report (reader : Reader) (diagnostic : Diagnostic) : Reader :=
  { reader with found := reader.found ++ [diagnostic] }

/-- Closes a number of blocks at a position, innermost first, as far as they are open. -/
def close (stop : Position) : Nat → Reader → Reader
  | 0, reader => reader
  | count + 1, reader =>
      match reader.stack with
      | [] => reader
      | address :: stack =>
          close stop count { reader with
            blocks :=
              Tree.alter (fun tree => { tree with stop := some stop }) address reader.blocks,
            stack }

def push (reader : Reader) (parent : Address) (level : Level) (name : Text)
    (start stop : Position) : Reader :=
  let siblings := Tree.childrenAt parent reader.blocks
  let reader :=
    if (siblings.map (·.name)).contains name then
      reader.report { problem := .duplicateBlock name, start, stop }
    else
      reader
  { reader with
    blocks := Tree.attach { name, level, start } parent reader.blocks,
    stack := (parent ++ [siblings.length]) :: reader.stack }

def openTop (reader : Reader) (name : Text) (start stop : Position) : Reader :=
  let depth := reader.stack.length
  let reader :=
    if 0 < depth then
      (reader.report {
        problem := .openedBeforeClosed, start, stop,
        correction := some (.insertBefore (State.closingRows depth)) }).close reader.rowEnd depth
    else
      reader
  reader.push [] .top name start stop

def closeTop (reader : Reader) (start stop : Position) : Option Reader :=
  match reader.stack.length with
  | 0 => some (reader.report { problem := .closedBeforeOpened, start, stop })
  | 1 => some (reader.close stop 1)
  | 2 =>
      let reader := reader.report {
        problem := .closedBeforeChild, start, stop,
        correction := some (.insertBefore "[../]\n".toList) }
      some (reader.close stop 2)
  | _ => none

def enclose (reader : Reader) (start stop : Position) : Option Reader :=
  match reader.stack.length with
  | 0 =>
      let reader := reader.report { problem := .childOutside, start, stop }
      some { reader with
        blocks := reader.blocks ++ [{ name := [], level := .top, start }],
        stack := [[reader.blocks.length]] }
  | 1 => some reader
  | 2 =>
      let reader := reader.report {
        problem := .childBeforeClosed, start, stop,
        correction := some (.insertBefore "[../]\n".toList) }
      some (reader.close reader.rowEnd 1)
  | _ => none

def openSub (reader : Reader) (name : Text) (start stop : Position) : Option Reader := do
  let reader ← reader.enclose start stop
  let parent ← reader.stack.head?
  return reader.push parent .sub name start stop

def closeSub (reader : Reader) (start stop : Position) : Option Reader :=
  match reader.stack.length with
  | 0 => some (reader.report { problem := .childClosedOutside, start, stop })
  | 1 => some (reader.report { problem := .childClosedInBlock, start, stop })
  | 2 => some (reader.close stop 1)
  | _ => none

def addParameter (reader : Reader) (name : Text) (value : Option Placed)
    (start stop : Position) : Option Reader :=
  match reader.stack with
  | [] => some reader
  | address :: _ => do
      let block ← Tree.at? address reader.blocks
      let reader :=
        if (findParameter? block.parameters name).isSome then
          reader.report {
            problem := .duplicateParameter name, start,
            stop := ⟨start.row, start.column + name.length⟩ }
        else
          reader
      return { reader with
        blocks := Tree.alter (fun tree =>
          { tree with parameters := tree.parameters ++ [{ name, value, start, stop }] })
          address reader.blocks }

def accept (reader : Reader) (line : Line) : Option Reader :=
  let start : Position := ⟨reader.row, line.indent⟩
  let stop : Position := ⟨reader.row, line.stop⟩
  match line.content with
  | .openTop name => some (reader.openTop name start stop)
  | .closeTop => reader.closeTop start stop
  | .openSub name => reader.openSub name start stop
  | .closeSub => reader.closeSub start stop
  | .parameter name value => reader.addParameter name value start stop
  | .comment | .blank | .other => some reader

def step (reader : Reader) (text : Text) : Option Reader := do
  let line := Line.read text
  let next ← reader.accept line
  let rowEnd : Position := ⟨reader.row, text.length⟩
  return { next with
    row := reader.row + 1,
    rowEnd,
    contentEnd := if line.content.isBlank then reader.contentEnd else some rowEnd }

def run (reader : Reader) (rows : List Text) : Option Reader :=
  rows.foldlM step reader

def finish (reader : Reader) : Reader :=
  let depth := reader.stack.length
  if depth = 0 then
    reader
  else
    let stop := reader.contentEnd.getD ⟨0, 0⟩
    let reader := reader.report {
      problem := .unclosed, start := ⟨stop.row, 0⟩, stop,
      correction := some (.insertAfter (State.closingTail depth)) }
    reader.close stop depth

def read (rows : List Text) : Option Reader :=
  (run {} rows).map finish

theorem close_add (stop : Position) (first second : Nat) (reader : Reader) :
    reader.close stop (first + second) = (reader.close stop first).close stop second := by
  induction first generalizing reader with
  | zero => rw [Nat.zero_add, close]
  | succ first ih =>
      rw [Nat.succ_add]
      cases stack : reader.stack with
      | nil =>
          have shut : ∀ count, reader.close stop count = reader := by
            intro count
            cases count <;> simp [close, stack]
          rw [shut, shut, shut]
      | cons address rest => simp only [close, stack, ih]

end Reader

/-! Blocks as trees. -/

def Block.tree (level : Level) (block : Block) : Tree :=
  { name := block.name, level, start := block.start, stop := some block.stop,
    parameters := block.parameters }

def TopBlock.tree (top : TopBlock) : Tree :=
  { top.toBlock.tree .top with children := top.children.map (Block.tree .sub) }

def OpenBlock.tree (level : Level) (block : OpenBlock) : Tree :=
  { name := block.name, level, start := block.start, parameters := block.parameters }

namespace OpenTop

def childTrees (top : OpenTop) : List Tree :=
  top.children.map (Block.tree .sub) ++ (top.sub.map (OpenBlock.tree .sub)).toList

def tree (top : OpenTop) : Tree :=
  { top.block.tree .top with children := top.childTrees }

def addresses (top : OpenTop) (index : Nat) : List Address :=
  match top.sub with
  | some _ => [[index, top.children.length], [index]]
  | none => [[index]]

theorem depth_pos (top : OpenTop) : 0 < top.depth := by
  unfold depth
  split <;> simp

theorem length_addresses (top : OpenTop) (index : Nat) :
    (top.addresses index).length = top.depth := by
  cases sub : top.sub <;> simp [addresses, depth, sub]

end OpenTop

def State.reader (state : State) : Reader where
  row := state.row
  rowEnd := state.rowEnd
  contentEnd := state.contentEnd
  blocks := state.closed.map TopBlock.tree ++ (state.current.map OpenTop.tree).toList
  stack := (state.current.map (·.addresses state.closed.length)).getD []
  found := state.found

namespace Tree

variable {index inner : Nat} {trees children : List Tree}

theorem modify_last (here : trees.length = index) (change : Tree → Tree) (tree : Tree) :
    (trees ++ [tree]).modify index change = trees ++ [change tree] := by
  subst here
  induction trees with
  | nil => rfl
  | cons first rest ih => simp [ih]

theorem alter_last (here : trees.length = index) (change : Tree → Tree) (tree : Tree) :
    alter change [index] (trees ++ [tree]) = trees ++ [change tree] :=
  modify_last here change tree

theorem alter_lastChild (here : trees.length = index) (below : children.length = inner)
    (change : Tree → Tree) {tree child : Tree} (last : tree.children = children ++ [child]) :
    alter change [index, inner] (trees ++ [tree]) =
      trees ++ [{ tree with children := children ++ [change child] }] := by
  simp only [alter]
  rw [modify_last here, last, modify_last below]

theorem at?_last (here : trees.length = index) (tree : Tree) :
    at? [index] (trees ++ [tree]) = some tree := by
  simp [at?, ← here]

theorem at?_lastChild (here : trees.length = index) (below : children.length = inner)
    {tree child : Tree} (last : tree.children = children ++ [child]) :
    at? [index, inner] (trees ++ [tree]) = some child := by
  simp [at?, ← here, ← below, last]

end Tree

namespace State

variable {top : OpenTop} {sub : OpenBlock}

section

variable (state : State)

theorem blocks_of_current (current : state.current = some top) :
    state.reader.blocks = state.closed.map TopBlock.tree ++ [top.tree] := by
  simp [reader, current]

theorem stack_of_current (current : state.current = some top) :
    state.reader.stack = top.addresses state.closed.length := by
  simp [reader, current]

theorem length_closed_trees : (state.closed.map TopBlock.tree).length = state.closed.length :=
  List.length_map _

theorem close_sub (current : state.current = some top) (opened : top.sub = some sub)
    (stop : Position) :
    state.reader.close stop 1 =
      ({ state with current := some (top.closeSub stop) } : State).reader := by
  have children : top.tree.children =
      top.children.map (Block.tree .sub) ++ [sub.tree .sub] := by
    simp [OpenTop.tree, OpenTop.childTrees, opened]
  simp only [Reader.close, state.stack_of_current current, OpenTop.addresses, opened]
  rw [state.blocks_of_current current,
    Tree.alter_lastChild state.length_closed_trees (List.length_map _) _ children]
  simp [reader, OpenTop.closeSub, opened, OpenTop.addresses, OpenTop.tree, OpenTop.childTrees,
    OpenBlock.tree, OpenBlock.close, Block.tree]

theorem close_top (current : state.current = some top) (shut : top.sub = none) (stop : Position) :
    state.reader.close stop 1 =
      ({ state with closed := state.closed ++ [top.close stop], current := none } :
        State).reader := by
  simp only [Reader.close, state.stack_of_current current, OpenTop.addresses, shut]
  rw [state.blocks_of_current current, Tree.alter_last state.length_closed_trees]
  simp [reader, OpenTop.close, OpenTop.closeSub, shut, OpenTop.tree, OpenTop.childTrees,
    OpenBlock.tree, OpenBlock.close, Block.tree, TopBlock.tree]

theorem close_depth (current : state.current = some top) (stop : Position) :
    state.reader.close stop top.depth =
      ({ state with closed := state.closed ++ [top.close stop], current := none } :
        State).reader := by
  cases sub : top.sub with
  | none =>
      have depth : top.depth = 1 := by simp [OpenTop.depth, sub]
      rw [depth, state.close_top current sub]
  | some inner =>
      have depth : top.depth = 1 + 1 := by simp [OpenTop.depth, sub]
      have shut : (top.closeSub stop).sub = none := by simp [OpenTop.closeSub, sub]
      rw [depth, Reader.close_add, state.close_sub current sub, close_top _ rfl shut]
      simp [OpenTop.close, OpenTop.closeSub, sub]

theorem push_top (outside : state.current = none) (name : Text) (start stop : Position) :
    state.reader.push [] .top name start stop =
      ({ state.reportDuplicate (state.closed.map (·.name)) name start stop with
        current := some { block := { name, start } } } : State).reader := by
  have siblings : Tree.childrenAt [] state.reader.blocks = state.closed.map TopBlock.tree := by
    simp [Tree.childrenAt, reader, outside]
  have names : (state.closed.map TopBlock.tree).map (·.name) = state.closed.map (·.name) := by
    simp [Function.comp_def, TopBlock.tree, Block.tree]
  simp only [Reader.push, siblings, names, State.reportDuplicate]
  split <;>
    simp [reader, outside, Reader.report, State.report, Tree.attach, OpenTop.tree,
      OpenTop.childTrees, OpenBlock.tree, OpenTop.addresses]

theorem push_sub (current : state.current = some top) (shut : top.sub = none) (name : Text)
    (start stop : Position) :
    state.reader.push [state.closed.length] .sub name start stop =
      (state.openSubOf top name start stop).reader := by
  have here := state.length_closed_trees
  have children : top.tree.children = top.children.map (Block.tree .sub) := by
    simp [OpenTop.tree, OpenTop.childTrees, shut]
  have siblings : Tree.childrenAt [state.closed.length] state.reader.blocks =
      top.children.map (Block.tree .sub) := by
    rw [state.blocks_of_current current, Tree.childrenAt, Tree.at?_last here]
    · simp [children]
    · simp
  have names : (top.children.map (Block.tree .sub)).map (·.name) = top.children.map (·.name) := by
    simp [Function.comp_def, Block.tree]
  have attached (tree : Tree) : Tree.attach tree [state.closed.length] state.reader.blocks =
      state.closed.map TopBlock.tree ++
        [{ top.tree with children := top.children.map (Block.tree .sub) ++ [tree] }] := by
    rw [state.blocks_of_current current, Tree.attach, Tree.alter_last here, children]
    simp
  simp only [Reader.push, siblings, names, openSubOf, State.reportDuplicate]
  split <;>
    simp [Reader.report, State.report, attached, state.stack_of_current current] <;>
    simp [reader, OpenTop.addresses, shut, OpenTop.tree, OpenTop.childTrees, OpenBlock.tree]

end

/-! Every kind of row does the same to a reader as to the state it shows. -/

variable (state : State) (name : Text) (start stop : Position)

theorem reader_openTop :
    state.reader.openTop name start stop = (state.openTop name start stop).reader := by
  cases current : state.current with
  | none =>
      have depth : state.reader.stack.length = 0 := by simp [reader, current]
      simp only [Reader.openTop, depth, openTop, current]
      exact state.push_top current name start stop
  | some top =>
      have depth : state.reader.stack.length = top.depth := by
        rw [state.stack_of_current current, OpenTop.length_addresses]
      simp only [Reader.openTop, depth, top.depth_pos, if_true, openTop, current]
      rw [← push_top _ rfl]
      exact congrArg (·.push [] .top name start stop)
        (close_depth (state.report _) current state.rowEnd)

theorem reader_closeTop :
    state.reader.closeTop start stop = some (state.closeTop start stop).reader := by
  cases current : state.current with
  | none =>
      have depth : state.reader.stack.length = 0 := by simp [reader, current]
      simp only [Reader.closeTop, depth, closeTop, current]
      rfl
  | some top =>
      have stack := state.stack_of_current current
      cases sub : top.sub with
      | none =>
          have depth : state.reader.stack.length = 1 := by simp [stack, OpenTop.addresses, sub]
          simp only [Reader.closeTop, depth, closeTop, current, sub, Option.isSome_none]
          exact congrArg some (state.close_top current sub stop)
      | some inner =>
          have depth : state.reader.stack.length = 2 := by simp [stack, OpenTop.addresses, sub]
          have deep : top.depth = 2 := by simp [OpenTop.depth, sub]
          simp only [Reader.closeTop, depth, closeTop, current, sub, Option.isSome_some, if_true]
          rw [← deep]
          exact congrArg some (close_depth (state.report _) current stop)

theorem openSub_of_enclose {state next : State} {start stop : Position}
    (enclosed : state.reader.enclose start stop =
      some ({ next with current := some top } : State).reader)
    (shut : top.sub = none) :
    state.reader.openSub name start stop = some (next.openSubOf top name start stop).reader := by
  have pushed := push_sub { next with current := some top } rfl shut name start stop
  have stack :
      ({ next with current := some top } : State).reader.stack = [[next.closed.length]] := by
    simp [reader, OpenTop.addresses, shut]
  rw [Reader.openSub, enclosed]
  simp only [Option.bind_eq_bind, Option.bind_some, stack, List.head?_cons, pushed]
  unfold openSubOf reportDuplicate
  split <;> rfl

theorem reader_openSub :
    state.reader.openSub name start stop = some (state.openSub name start stop).reader := by
  cases current : state.current with
  | none =>
      simp only [openSub, current]
      apply openSub_of_enclose
      · simp [Reader.enclose, reader, current, Reader.report, report, OpenTop.tree,
          OpenTop.childTrees, OpenBlock.tree, OpenTop.addresses]
      · rfl
  | some top =>
      have stack := state.stack_of_current current
      cases sub : top.sub with
      | none =>
          simp only [openSub, current, sub, Option.isSome_none]
          apply openSub_of_enclose
          · simp [Reader.enclose, stack, OpenTop.addresses, sub, ← current]
          · exact sub
      | some inner =>
          have depth : state.reader.stack.length = 2 := by simp [stack, OpenTop.addresses, sub]
          simp only [openSub, current, sub, Option.isSome_some, if_true]
          apply openSub_of_enclose
          · simp only [Reader.enclose, depth]
            exact congrArg some (close_sub (state.report _) current sub _)
          · simp [OpenTop.closeSub, sub]

theorem reader_closeSub :
    state.reader.closeSub start stop = some (state.closeSub start stop).reader := by
  cases current : state.current with
  | none =>
      have depth : state.reader.stack.length = 0 := by simp [reader, current]
      simp only [Reader.closeSub, depth, closeSub, current]
      rfl
  | some top =>
      have stack := state.stack_of_current current
      cases sub : top.sub with
      | none =>
          have depth : state.reader.stack.length = 1 := by simp [stack, OpenTop.addresses, sub]
          simp only [Reader.closeSub, depth, closeSub, current, sub, Option.isSome_none]
          rfl
      | some inner =>
          have depth : state.reader.stack.length = 2 := by simp [stack, OpenTop.addresses, sub]
          simp only [Reader.closeSub, depth, closeSub, current, sub, Option.isSome_some, if_true]
          exact congrArg some (state.close_sub current sub stop)

theorem addParameter_at {state : State} {address : Address} {rest : List Address}
    (tree : Tree) (current : state.current = some top)
    (stack : state.reader.stack = address :: rest)
    (found : Tree.at? address state.reader.blocks = some tree)
    (own : tree.parameters = top.innermost.parameters) (value : Option Placed)
    (altered : Tree.alter (fun tree =>
        { tree with parameters := tree.parameters ++ [⟨name, value, [], start, stop⟩] })
        address state.reader.blocks =
      state.closed.map TopBlock.tree ++ [(top.addParameter ⟨name, value, [], start, stop⟩).tree]) :
    state.reader.addParameter name value start stop =
      some (state.addParameter name value start stop).reader := by
  have addresses : (top.addParameter ⟨name, value, [], start, stop⟩).addresses state.closed.length =
      address :: rest := by
    rw [← stack, state.stack_of_current current]
    cases sub : top.sub <;> simp [OpenTop.addParameter, sub, OpenTop.addresses]
  simp only [Reader.addParameter, stack, found, own, addParameter, current, Option.bind_eq_bind,
    Option.bind_some, Option.pure_def, Option.some.injEq]
  split <;>
    simp only [Reader.report, altered, stack] <;>
    simp [report, reader, addresses]

theorem reader_addParameter (value : Option Placed) :
    state.reader.addParameter name value start stop =
      some (state.addParameter name value start stop).reader := by
  cases current : state.current with
  | none => simp [Reader.addParameter, addParameter, reader, current]
  | some top =>
      have blocks := state.blocks_of_current current
      have stack := state.stack_of_current current
      have here := state.length_closed_trees
      cases sub : top.sub with
      | none =>
          rw [OpenTop.addresses, sub] at stack
          refine addParameter_at name start stop top.tree current stack ?_ ?_ value ?_
          · rw [blocks, Tree.at?_last here]
          · simp [OpenTop.innermost, sub, OpenTop.tree, OpenBlock.tree]
          · rw [blocks, Tree.alter_last here]
            simp [OpenTop.addParameter, sub, OpenTop.tree, OpenTop.childTrees, OpenBlock.tree]
      | some inner =>
          rw [OpenTop.addresses, sub] at stack
          have below : (top.children.map (Block.tree .sub)).length = top.children.length :=
            List.length_map _
          have children : top.tree.children =
              top.children.map (Block.tree .sub) ++ [inner.tree .sub] := by
            simp [OpenTop.tree, OpenTop.childTrees, sub]
          refine addParameter_at name start stop (inner.tree .sub) current stack ?_ ?_ value ?_
          · rw [blocks, Tree.at?_lastChild here below children]
          · simp [OpenTop.innermost, sub, OpenBlock.tree]
          · rw [blocks, Tree.alter_lastChild here below _ children]
            simp [OpenTop.addParameter, sub, OpenTop.tree, OpenTop.childTrees, OpenBlock.tree]

theorem reader_accept (line : Line) :
    state.reader.accept line = some (state.accept line).reader := by
  unfold Reader.accept accept
  cases line.content with
  | openTop name => exact congrArg some (state.reader_openTop name _ _)
  | closeTop => exact state.reader_closeTop _ _
  | openSub name => exact state.reader_openSub name _ _
  | closeSub => exact state.reader_closeSub _ _
  | parameter name value => exact state.reader_addParameter name _ _ value
  | comment | blank | other => rfl

theorem reader_step (row : Text) : state.reader.step row = some (state.step row).reader := by
  simp only [Reader.step, reader_accept]
  rfl

theorem reader_run (rows : List Text) :
    state.reader.run rows = some (state.run rows).reader := by
  induction rows generalizing state with
  | nil => rfl
  | cons row rows ih =>
      rw [Reader.run, List.foldlM_cons, reader_step]
      exact ih (state.step row)

theorem reader_finish : state.reader.finish = state.finish.reader := by
  cases current : state.current with
  | none =>
      have depth : state.reader.stack.length = 0 := by simp [reader, current]
      simp only [Reader.finish, depth, finish, current]
      rfl
  | some top =>
      have depth : state.reader.stack.length = top.depth := by
        rw [state.stack_of_current current, OpenTop.length_addresses]
      simp only [Reader.finish, depth, Nat.ne_of_gt top.depth_pos, if_false, finish, current]
      exact close_depth (state.report _) current _

end State

end Outline

end InputDeck
