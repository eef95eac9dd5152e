import InputDeck.Proofs.Outline.Stack

/-!
The open right edge.  While an outline is read with a stack, the stack holds the last block and its
last sub-block as far as they are open, and every other block has its end.
-/

namespace InputDeck

namespace Outline

namespace Tree

/-- The open right edge: the last block, its last child and so on, as long as they are open. -/
inductive RightEdge : List Tree → List Address → Prop
  | shut {trees : List Tree} (closed : ∀ last, trees.getLast? = some last → last.stop.isSome) :
      RightEdge trees []
  | deeper (before : List Tree) {last : Tree} {edge : List Address} (unclosed : last.stop = none)
      (inner : RightEdge last.children edge) :
      RightEdge (before ++ [last]) ([before.length] :: edge.map (before.length :: ·))

end Tree

/-- The shape of what has been read: at most two blocks are open, they are the open right edge,
every other block has an end, and sub-blocks stand in blocks and hold no further ones. -/
structure Reader.Shaped (reader : Reader) : Prop where
  depth : reader.stack.length ≤ 2
  edge : Tree.RightEdge reader.blocks reader.stack.reverse
  closed : ∀ address tree, Tree.at? address reader.blocks = some tree →
    address ∉ reader.stack → tree.stop.isSome
  levels : ∀ tree ∈ reader.blocks, tree.level = .top ∧
    ∀ child ∈ tree.children, child.level = .sub ∧ child.children = []

namespace Tree

def Closed (trees : List Tree) : Prop :=
  ∀ address tree, at? address trees = some tree → tree.stop.isSome

theorem closed_of_forall {trees : List Tree}
    (each : ∀ tree ∈ trees, tree.stop.isSome ∧ Closed tree.children) : Closed trees := by
  intro address tree found
  match address, found with
  | [index], found => exact (each tree (List.mem_of_getElem? found)).1
  | index :: next :: address, found =>
      obtain ⟨parent, here, inner⟩ := Option.bind_eq_some_iff.mp found
      exact (each parent (List.mem_of_getElem? here)).2 (next :: address) tree inner

theorem closed_nil : Closed [] :=
  closed_of_forall (by simp)

theorem closed_or_last {before : List Tree} {last tree : Tree} {address : Address}
    (each : ∀ tree ∈ before, tree.stop.isSome ∧ Closed tree.children)
    (found : at? address (before ++ [last]) = some tree) :
    tree.stop.isSome ∨ (address = [before.length] ∧ tree = last) ∨
      ∃ inner, address = before.length :: inner ∧ at? inner last.children = some tree := by
  have place : ∀ {index : Nat} {parent : Tree}, (before ++ [last])[index]? = some parent →
      parent ∈ before ∨ (index = before.length ∧ parent = last) := by
    intro index parent here
    by_cases within : index < before.length
    · rw [List.getElem?_append_left within] at here
      exact .inl (List.mem_of_getElem? here)
    · rw [List.getElem?_append_right (Nat.le_of_not_lt within),
        List.getElem?_singleton] at here
      split at here
      · next same => exact .inr ⟨by omega, (Option.some.inj here).symm⟩
      · cases here
  match address, found with
  | [index], found =>
      rcases place found with member | ⟨rfl, rfl⟩
      · exact .inl (each tree member).1
      · exact .inr (.inl ⟨rfl, rfl⟩)
  | index :: next :: address, found =>
      obtain ⟨parent, here, inner⟩ := Option.bind_eq_some_iff.mp found
      rcases place here with member | ⟨rfl, rfl⟩
      · exact .inl ((each parent member).2 _ tree inner)
      · exact .inr (.inr ⟨next :: address, rfl, inner⟩)

theorem closed_children (children : List Block) :
    ∀ tree ∈ children.map (Block.tree .sub), tree.stop.isSome ∧ Closed tree.children := by
  intro tree member
  obtain ⟨block, -, rfl⟩ := List.mem_map.mp member
  exact ⟨rfl, closed_nil⟩

theorem closed_tops (tops : List TopBlock) :
    ∀ tree ∈ tops.map TopBlock.tree, tree.stop.isSome ∧ Closed tree.children := by
  intro tree member
  obtain ⟨top, -, rfl⟩ := List.mem_map.mp member
  exact ⟨rfl, closed_of_forall (closed_children top.children)⟩

theorem rightEdge_nil_of_closed {trees : List Tree}
    (each : ∀ tree ∈ trees, tree.stop.isSome ∧ Closed tree.children) : RightEdge trees [] :=
  .shut fun last found => (each last (List.mem_of_getLast? found)).1

end Tree

namespace State

variable (state : State)

theorem rightEdge_reader : Tree.RightEdge state.reader.blocks state.reader.stack.reverse := by
  cases current : state.current with
  | none =>
      have edge := Tree.rightEdge_nil_of_closed (Tree.closed_tops state.closed)
      simpa [reader, current] using edge
  | some top =>
      rw [state.blocks_of_current current, state.stack_of_current current]
      have children := Tree.closed_children top.children
      cases sub : top.sub with
      | none =>
          have inner : Tree.RightEdge top.tree.children [] := by
            simpa [OpenTop.tree, OpenTop.childTrees, sub] using
              Tree.rightEdge_nil_of_closed children
          simpa [OpenTop.addresses, sub] using
            Tree.RightEdge.deeper (state.closed.map TopBlock.tree) rfl inner
      | some block =>
          have leaf : Tree.RightEdge (block.tree .sub).children [] :=
            .shut (by simp [OpenBlock.tree])
          have inner : Tree.RightEdge top.tree.children [[top.children.length]] := by
            simpa [OpenTop.tree, OpenTop.childTrees, sub] using
              Tree.RightEdge.deeper (top.children.map (Block.tree .sub)) rfl leaf
          simpa [OpenTop.addresses, sub] using
            Tree.RightEdge.deeper (state.closed.map TopBlock.tree) rfl inner

theorem closed_reader {address : Address} {tree : Tree}
    (found : Tree.at? address state.reader.blocks = some tree)
    (shut : address ∉ state.reader.stack) : tree.stop.isSome := by
  have tops := Tree.closed_tops state.closed
  cases current : state.current with
  | none =>
      apply Tree.closed_of_forall tops address
      simpa [reader, current] using found
  | some top =>
      rw [state.blocks_of_current current] at found
      rw [state.stack_of_current current] at shut
      rcases Tree.closed_or_last tops found with closed | ⟨rfl, -⟩ | ⟨inner, rfl, below⟩
      · exact closed
      · cases sub : top.sub <;> simp [OpenTop.addresses, sub] at shut
      · have children := Tree.closed_children top.children
        cases sub : top.sub with
        | none =>
            apply Tree.closed_of_forall children inner
            simpa [OpenTop.tree, OpenTop.childTrees, sub] using below
        | some block =>
            have split : top.tree.children =
                top.children.map (Block.tree .sub) ++ [block.tree .sub] := by
              simp [OpenTop.tree, OpenTop.childTrees, sub]
            rw [split] at below
            rcases Tree.closed_or_last children below with closed | ⟨rfl, -⟩ | ⟨deeper, -, none⟩
            · exact closed
            · simp [OpenTop.addresses, sub] at shut
            · exact Tree.closed_nil deeper tree none

theorem levels_reader : ∀ tree ∈ state.reader.blocks, tree.level = .top ∧
    ∀ child ∈ tree.children, child.level = .sub ∧ child.children = [] := by
  have blocks (children : List Block) : ∀ child ∈ children.map (Block.tree .sub),
      child.level = .sub ∧ child.children = [] := by
    intro child member
    obtain ⟨block, -, rfl⟩ := List.mem_map.mp member
    exact ⟨rfl, rfl⟩
  intro tree member
  rcases List.mem_append.mp member with closed | last
  · obtain ⟨top, -, rfl⟩ := List.mem_map.mp closed
    exact ⟨rfl, blocks top.children⟩
  · rw [Option.mem_toList, Option.map_eq_some_iff] at last
    obtain ⟨top, -, rfl⟩ := last
    refine ⟨rfl, ?_⟩
    intro child inside
    rcases List.mem_append.mp inside with closed | sub
    · exact blocks top.children child closed
    · rw [Option.mem_toList, Option.map_eq_some_iff] at sub
      obtain ⟨block, -, rfl⟩ := sub
      exact ⟨rfl, rfl⟩

theorem shaped_reader : state.reader.Shaped where
  depth := by
    cases current : state.current with
    | none => simp [reader, current]
    | some top =>
        rw [state.stack_of_current current, OpenTop.length_addresses, OpenTop.depth]
        split <;> simp
  edge := state.rightEdge_reader
  closed _ _ := state.closed_reader
  levels := state.levels_reader

end State

end Outline

end InputDeck
