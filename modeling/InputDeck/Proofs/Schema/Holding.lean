import InputDeck.Proofs.Schema.Layers
import InputDeck.Schema.Dump

/-!
Which blocks hold others.  A block that is read holds blocks if it has a list of them, which may be
empty, and so whatever has a block below it holds blocks.
-/

namespace InputDeck

namespace Checked

variable {α β : Type}

theorem within_eq_ok {step : Step} {checked : Checked α} {value : α}
    (read : within step checked = .ok value) : checked = .ok value := by
  cases checked with
  | ok found => exact read
  | error faults => cases read

theorem apply_eq_ok {make : Checked (α → β)} {checked : Checked α} {value : β}
    (read : apply make checked = .ok value) :
    ∃ f part, make = .ok f ∧ checked = .ok part ∧ f part = value := by
  cases make with
  | ok f =>
      cases checked with
      | ok part => exact ⟨f, part, rfl, rfl, Except.ok.inj read⟩
      | error faults => cases read
  | error faults => cases checked <;> cases read

end Checked

namespace Schema

namespace Node

/-- Whatever has blocks below it holds blocks, at and below a block. -/
def Holding (node : Node) : Prop :=
  ∀ block ∈ node.preorder, block.children ≠ [] → block.holdsBlocks = true

theorem Holding.child {node child : Node} (holding : node.Holding)
    (inside : child ∈ node.children) : child.Holding := fun block member =>
  holding block (mem_preorder_iff.mpr (.inr ⟨child, inside, member⟩))

theorem holding_of_children {node : Node} (own : node.children ≠ [] → node.holdsBlocks = true)
    (children : ∀ child ∈ node.children, child.Holding) : node.Holding := by
  intro block member
  rcases mem_preorder_iff.mp member with rfl | ⟨child, inside, below⟩
  · exact own
  · exact children child inside block below

theorem checkEntries_eq_ok {entries : List (Value × Value)}
    {children : Checked (Option (List Node))} {node : Node}
    (read : checkEntries entries children = .ok node) :
    ∃ blocks, children = .ok blocks ∧ node.holdsBlocks = blocks.isSome ∧
      node.children = blocks.getD [] := by
  obtain ⟨withFile, file, madeFile, -, rfl⟩ := Checked.apply_eq_ok read
  obtain ⟨withBlocks, blocks, madeBlocks, found, rfl⟩ := Checked.apply_eq_ok madeFile
  obtain ⟨withParameters, _, madeParameters, -, rfl⟩ := Checked.apply_eq_ok madeBlocks
  obtain ⟨withDescription, _, madeDescription, -, rfl⟩ := Checked.apply_eq_ok madeParameters
  obtain ⟨withName, _, madeName, -, rfl⟩ := Checked.apply_eq_ok madeDescription
  obtain rfl := Except.ok.inj madeName
  exact ⟨blocks, Checked.within_eq_ok found, rfl, rfl⟩

theorem holding_checkEntries {entries : List (Value × Value)}
    {children : Checked (Option (List Node))} {node : Node}
    (read : checkEntries entries children = .ok node)
    (below : ∀ blocks, children = .ok (some blocks) → ∀ block ∈ blocks, block.Holding) :
    node.Holding := by
  obtain ⟨blocks, found, holds, inside⟩ := checkEntries_eq_ok read
  cases blocks with
  | none => exact holding_of_children (absurd inside) (by simp [inside])
  | some blocks =>
      refine holding_of_children (fun _ => holds) ?_
      rw [inside]
      exact below blocks found

mutual

theorem holding_checkWithin (levels : Nat) :
    (value : Value) → {node : Node} → checkWithin levels value = .ok node → node.Holding
  | .map entries, node, read | .ordered entries, node, read => by
      cases levels with
      | zero =>
          rw [checkWithin] at read
          cases read
      | succ below =>
          rw [checkWithin] at read
          exact holding_checkEntries read fun blocks found =>
            holding_checkChildren below entries found
  | .null, _, read | .bool _, _, read | .int _, _, read | .float _, _, read | .text _, _, read
  | .bytes _, _, read | .moment _, _, read | .list _, _, read | .tuple _, _, read
  | .set _, _, read | .again _, _, read => by cases levels <;> cases read

theorem holding_checkChildren (levels : Nat) :
    (entries : List (Value × Value)) → {blocks : List Node} →
      checkChildren levels entries = .ok (some blocks) → ∀ block ∈ blocks, block.Holding
  | [], _, read => by cases read
  | (name, value) :: rest, blocks, read => by
      rw [checkChildren.eq_def] at read
      split at read
      · cases read
      · next same =>
          obtain ⟨⟨rfl, rfl⟩, rfl⟩ := List.cons.inj same
          split at read
          · exact holding_checkList levels value read
          · exact holding_checkChildren levels rest read
      · next same =>
          obtain ⟨-, rfl⟩ := List.cons.inj same
          exact holding_checkChildren levels rest read

theorem holding_checkList (levels : Nat) :
    (value : Value) → {blocks : List Node} →
      checkList levels value = .ok (some blocks) → ∀ block ∈ blocks, block.Holding
  | .list items, blocks, read | .tuple items, blocks, read | .set items, blocks, read => by
      rw [checkList] at read
      cases readItems : checkItems levels 0 items with
      | error faults =>
          rw [readItems] at read
          cases read
      | ok found =>
          rw [readItems] at read
          cases read
          exact holding_checkItems levels items readItems
  | .null, _, read => by cases read
  | .bool _, _, read | .int _, _, read | .float _, _, read | .text _, _, read
  | .bytes _, _, read | .moment _, _, read | .map _, _, read | .ordered _, _, read
  | .again _, _, read => by cases read

theorem holding_checkItems (levels : Nat) :
    (items : List Value) → {position : Nat} → {blocks : List Node} →
      checkItems levels position items = .ok blocks → ∀ block ∈ blocks, block.Holding
  | [], position, blocks, read => by
      obtain rfl := Except.ok.inj read
      nofun
  | item :: rest, position, blocks, read => by
      rw [checkItems] at read
      obtain ⟨cons, others, made, readRest, rfl⟩ := Checked.apply_eq_ok read
      obtain ⟨pair, block, made', readItem, rfl⟩ := Checked.apply_eq_ok made
      obtain rfl := Except.ok.inj made'
      refine List.forall_mem_cons.mpr ⟨?_, holding_checkItems levels rest readRest⟩
      exact holding_checkWithin levels item (Checked.within_eq_ok readItem)

end

theorem holding_checkAll {items : List Value} {nodes : List Node}
    (read : checkAll items = .ok nodes) : ∀ node ∈ nodes, node.Holding := by
  induction items generalizing nodes with
  | nil =>
      obtain rfl := Except.ok.inj read
      nofun
  | cons item rest ih =>
      rw [checkAll] at read
      cases first : check item with
      | error faults =>
          rw [first] at read
          cases read
      | ok node =>
          cases later : checkAll rest with
          | error faults =>
              rw [first, later] at read
              cases read
          | ok others =>
              rw [first, later] at read
              cases read
              exact List.forall_mem_cons.mpr ⟨holding_checkWithin levelLimit item first, ih later⟩

end Node

theorem holding_nodesOfValue {path : Text} {value : Value} {nodes : List Node}
    (read : nodesOfValue path value = .ok nodes) : ∀ node ∈ nodes, node.Holding := by
  rw [nodesOfValue.eq_def] at read
  split at read
  · split at read
    · next found =>
        cases read
        exact Node.holding_checkAll found
    · cases read
  · cases read

theorem holding_readNodes {limit : Int} {path text : Text} {state : Yaml.Assembly}
    {nodes : List Node} (read : (readNodes limit path text state).1 = .ok nodes) :
    ∀ node ∈ nodes, node.Holding := by
  rw [readNodes] at read
  split at read
  · cases read
  · split at read
    · next graph _ _ =>
        change nodesOfGraph path graph = .ok nodes at read
        rw [nodesOfGraph] at read
        split at read
        · cases read
        · split at read
          · cases read
          · exact holding_nodesOfValue read
    · cases read

end Schema

end InputDeck
