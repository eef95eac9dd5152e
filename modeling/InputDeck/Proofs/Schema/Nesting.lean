import Mathlib.Data.List.Basic
import Mathlib.Order.MinMax
import InputDeck.Schema.Dump

/-!
How many lists and maps lie around the parts of some data, and the guard against data that is
nested too deeply.  The guard takes parts off a stack and stops at the first that lies too far down,
so it refuses exactly the values whose depth is beyond the limit.  Collections that hold themselves
have parts at every level, and are refused for every limit.
-/

namespace InputDeck

namespace Value

/-- A value holds a part of it at a level, the number of lists and maps around the part.  The keys
of a map are no parts of it. -/
inductive Holds : Value → Nat → Value → Prop
  | self {value : Value} : Holds value 0 value
  | item {items : List Value} {item part : Value} {level : Nat}
      (member : item ∈ items) (inside : Holds item level part) :
      Holds (list items) (level + 1) part
  | entry {entries : List (Value × Value)} {key item part : Value} {level : Nat}
      (member : (key, item) ∈ entries) (inside : Holds item level part) :
      Holds (map entries) (level + 1) part
  | orderedEntry {entries : List (Value × Value)} {key item part : Value} {level : Nat}
      (member : (key, item) ∈ entries) (inside : Holds item level part) :
      Holds (ordered entries) (level + 1) part

section Depth

variable {value : Value} {level : Nat}

theorem holds_succ_iff {part : Value} :
    value.Holds (level + 1) part ↔ ∃ child ∈ value.children, child.Holds level part := by
  constructor
  · intro holds
    cases holds with
    | item member inside => exact ⟨_, member, inside⟩
    | entry member inside => exact ⟨_, List.mem_map_of_mem member, inside⟩
    | orderedEntry member inside => exact ⟨_, List.mem_map_of_mem member, inside⟩
  · rintro ⟨child, member, inside⟩
    cases value with
    | list items => exact .item member inside
    | map entries =>
        obtain ⟨⟨key, item⟩, among, rfl⟩ := List.mem_map.mp member
        exact .entry among inside
    | ordered entries =>
        obtain ⟨⟨key, item⟩, among, rfl⟩ := List.mem_map.mp member
        exact .orderedEntry among inside
    | _ => exact absurd member List.not_mem_nil

theorem depthEntries_eq (entries : List (Value × Value)) :
    depthEntries entries = depthItems (entries.map Prod.snd) := by
  induction entries with
  | nil => rfl
  | cons entry rest ih => rw [depthEntries, ih, List.map_cons, depthItems]

theorem depth_eq (value : Value) : value.depth = depthItems value.children := by
  cases value with
  | list items => rw [depth, children]
  | map entries => rw [depth, children, depthEntries_eq]
  | ordered entries => rw [depth, children, depthEntries_eq]
  | _ => rfl

theorem lt_depthItems_iff {items : List Value} :
    level < depthItems items ↔ ∃ item ∈ items, level ≤ item.depth := by
  induction items with
  | nil => simp [depthItems]
  | cons item rest ih =>
      rw [depthItems, lt_max_iff, Nat.lt_succ_iff, ih, List.exists_mem_cons_iff]

theorem lt_depth_iff : level < value.depth ↔ ∃ child ∈ value.children, level ≤ child.depth := by
  rw [depth_eq, lt_depthItems_iff]

theorem le_depth_iff : level ≤ value.depth ↔ ∃ part, value.Holds level part := by
  -- on the level and not on the value, since both sides lose a level with each step to a child
  induction level generalizing value with
  | zero => exact ⟨fun _ => ⟨value, .self⟩, fun _ => Nat.zero_le _⟩
  | succ level ih =>
      simp only [Nat.succ_le_iff, lt_depth_iff, holds_succ_iff, ih]
      constructor
      · rintro ⟨child, member, part, inside⟩
        exact ⟨part, child, member, inside⟩
      · rintro ⟨part, child, member, inside⟩
        exact ⟨child, member, part, inside⟩

theorem lt_depth_iff_holds {limit : Int} :
    limit < value.depth ↔ ∃ level part, value.Holds level part ∧ limit < level := by
  constructor
  · intro deeper
    obtain ⟨part, holds⟩ := le_depth_iff.mp (Nat.le_refl value.depth)
    exact ⟨value.depth, part, holds, deeper⟩
  · rintro ⟨level, part, holds, beyond⟩
    have within := le_depth_iff.mpr ⟨part, holds⟩
    omega

end Depth

section Stack

variable {limit : Int} {value : Value}

/-- Some value on a stack, each with its own depth, goes further down than the limit.  The loop
keeps whether this is so. -/
def GoesBeyond (limit : Int) (pending : List (Value × Nat)) : Prop :=
  ∃ entry ∈ pending, limit < ↑(entry.2 + entry.1.depth)

theorem lt_add_depth_iff {depth : Nat} (within : ¬ limit < depth) :
    limit < ↑(depth + value.depth) ↔
      ∃ child ∈ value.children, limit < ↑(depth + 1 + child.depth) := by
  obtain ⟨levels, rfl⟩ : ∃ levels : Nat, limit = ↑(depth + levels) :=
    ⟨(limit - depth).toNat, by omega⟩
  have inside : ∀ child : Value, depth + levels < depth + 1 + child.depth ↔ levels ≤ child.depth :=
    fun child => by omega
  simp only [Int.ofNat_lt, Nat.add_lt_add_iff_left, lt_depth_iff, inside]

theorem goesBeyond_expand_iff {depth : Nat} {rest : List (Value × Nat)}
    (within : ¬ limit < depth) :
    GoesBeyond limit (value.children.map (·, depth + 1) ++ rest) ↔
      GoesBeyond limit ((value, depth) :: rest) := by
  rw [GoesBeyond, GoesBeyond, List.exists_mem_cons_iff, lt_add_depth_iff within]
  simp only [List.mem_append, or_and_right, exists_or, List.mem_map, exists_exists_and_eq_and]

theorem anyDeeper_iff {pending : List (Value × Nat)} :
    anyDeeper limit pending = true ↔ GoesBeyond limit pending := by
  fun_induction anyDeeper limit pending with
  | case1 => simp [GoesBeyond]
  | case2 value depth rest beyond =>
      have deeper : limit < ↑(depth + value.depth) := by omega
      exact iff_of_true rfl ⟨(value, depth), List.mem_cons_self, deeper⟩
  | case3 value depth rest within ih => rw [ih, goesBeyond_expand_iff within]

theorem isDeeperThan_iff : value.isDeeperThan limit = true ↔ limit < value.depth := by
  rw [isDeeperThan, anyDeeper_iff, GoesBeyond]
  simp

end Stack

end Value

namespace Yaml

inductive Draft.Holds (store : Store) : Draft → Nat → Draft → Prop
  | self {draft : Draft} : Holds store draft 0 draft
  | child {place : Nat} {child part : Draft} {level : Nat}
      (member : child ∈ (store.collectionAt place).children)
      (inside : Holds store child level part) :
      Holds store (stored place) (level + 1) part

namespace Draft.Holds

variable {store : Store} {draft part : Draft} {place level : Nat}

theorem stored_succ_iff :
    (stored place).Holds store (level + 1) part ↔
      ∃ child ∈ (store.collectionAt place).children, child.Holds store level part := by
  constructor
  · intro holds
    cases holds with
    | child member inside => exact ⟨_, member, inside⟩
  · rintro ⟨child, member, inside⟩
    exact .child member inside

theorem exists_place (holds : draft.Holds store (level + 1) part) :
    ∃ place, draft = stored place := by
  cases holds with
  | child member inside => exact ⟨_, rfl⟩

theorem exists_above {lower : Nat} (holds : draft.Holds store level part) (le : lower ≤ level) :
    ∃ above, draft.Holds store lower above := by
  induction holds generalizing lower with
  | self =>
      obtain rfl := Nat.le_zero.mp le
      exact ⟨_, .self⟩
  | child member inside ih =>
      cases lower with
      | zero => exact ⟨_, .self⟩
      | succ lower =>
          obtain ⟨above, between⟩ := ih (Nat.le_of_succ_le_succ le)
          exact ⟨above, .child member between⟩

end Draft.Holds

namespace Store

variable {store : Store} {place level : Nat}

theorem lt_size_of_child {child : Draft} (member : child ∈ (store.collectionAt place).children) :
    place < store.size := by
  by_contra outside
  rw [collectionAt, Array.getD_eq_getD_getElem?, Array.getElem?_eq_none (Nat.not_lt.mp outside)]
    at member
  exact List.not_mem_nil member

theorem getD_setIfInBounds_eq_false_iff {seen : Array Bool} {next : Nat} :
    (seen.setIfInBounds next true).getD place true = false ↔
      place ≠ next ∧ seen.getD place true = false := by
  rw [Array.getD_eq_getD_getElem?, Array.getD_eq_getD_getElem?, Array.getElem?_setIfInBounds]
  by_cases same : next = place
  · subst same
    by_cases inside : next < seen.size <;> simp [inside]
  · simp [same, Ne.symm same]

theorem mem_foldl_mark {seen : Array Bool} {found places : List Nat} :
    place ∈ (places.foldl (fun (seen, found) place => mark seen found place) (seen, found)).2 ↔
      place ∈ found ∨ place ∈ places ∧ seen.getD place true = false := by
  induction places generalizing seen found with
  | nil => simp
  | cons next rest ih =>
      by_cases marked : seen.getD next true = true
      · have kept : mark seen found next = (seen, found) := if_pos marked
        simp only [List.foldl_cons, kept, ih]
        grind
      · have added : mark seen found next = (seen.setIfInBounds next true, next :: found) :=
          if_neg marked
        simp only [List.foldl_cons, added, ih, getD_setIfInBounds_eq_false_iff]
        grind

theorem mem_unseen_iff {places : List Nat} :
    place ∈ (unseen (Array.replicate store.size false) places).2 ↔
      place ∈ places ∧ place < store.size := by
  have unmarked : (Array.replicate store.size false).getD place true = false ↔
      place < store.size := by
    rw [Array.getD_eq_getD_getElem?, Array.getElem?_replicate]
    by_cases inside : place < store.size <;> simp [inside]
  rw [unseen, mem_foldl_mark, unmarked]
  simp

/-- The places right below some others that are followed: each of them once, and none at which no
collection is kept. -/
def below (store : Store) (places : List Nat) : List Nat :=
  let children := places.flatMap (fun place => (store.collectionAt place).children)
  let named := children.flatMap (fun child =>
    match child with
    | .stored place => [place]
    | _ => [])
  (unseen (Array.replicate store.size false) named).2

theorem mem_below_iff {places : List Nat} :
    place ∈ store.below places ↔
      place < store.size ∧
        ∃ upper ∈ places, .stored place ∈ (store.collectionAt upper).children := by
  rw [below, mem_unseen_iff, and_comm, and_congr_right_iff]
  intro kept
  simp only [List.mem_flatMap]
  constructor
  · rintro ⟨child, ⟨upper, among, member⟩, named⟩
    cases child with
    | stored next => exact ⟨upper, among, List.mem_singleton.mp named ▸ member⟩
    | _ => exact absurd named List.not_mem_nil
  · rintro ⟨upper, among, member⟩
    exact ⟨_, ⟨upper, among, member⟩, List.mem_singleton_self place⟩

theorem reaches_nil (level : Nat) : store.reaches level [] = false := by
  match level with
  | 0 | 1 | _ + 2 => rfl

theorem reaches_one_iff {places : List Nat} :
    store.reaches 1 places = true ↔
      ∃ place ∈ places, ∃ child, child ∈ (store.collectionAt place).children := by
  simp only [reaches, Bool.not_eq_true', List.isEmpty_eq_false_iff_exists_mem, List.mem_flatMap]
  constructor
  · rintro ⟨child, place, among, member⟩
    exact ⟨place, among, child, member⟩
  · rintro ⟨place, among, child, member⟩
    exact ⟨child, place, among, member⟩

theorem reaches_succ_succ (places : List Nat) :
    store.reaches (level + 2) places = store.reaches (level + 1) (store.below places) := by
  rw [reaches]
  split
  · rename_i nothing
    have empty : store.below places = [] := congrArg Prod.snd nothing
    rw [empty, reaches_nil]
  · rename_i found _ some
    have same : store.below places = found := congrArg Prod.snd some
    rw [same]

/-- Going down level by level misses nothing, though a place is followed only once in a level and
only if a collection is kept there. -/
theorem reaches_iff {places : List Nat} :
    store.reaches level places = true ↔
      ∃ place ∈ places, ∃ part, (Draft.stored place).Holds store level part := by
  induction level generalizing places with
  | zero =>
      cases places with
      | nil => simp [reaches]
      | cons place rest => exact iff_of_true rfl ⟨place, List.mem_cons_self, _, .self⟩
  | succ level ih =>
      cases level with
      | zero =>
          rw [reaches_one_iff]
          constructor
          · rintro ⟨place, among, child, member⟩
            exact ⟨place, among, child, .child member .self⟩
          · rintro ⟨place, among, part, holds⟩
            obtain ⟨child, member, inside⟩ := Draft.Holds.stored_succ_iff.mp holds
            exact ⟨place, among, child, member⟩
      | succ level =>
          rw [reaches_succ_succ, ih]
          constructor
          · rintro ⟨next, within, part, inside⟩
            obtain ⟨kept, place, among, member⟩ := mem_below_iff.mp within
            exact ⟨place, among, part, .child member inside⟩
          · rintro ⟨place, among, part, holds⟩
            obtain ⟨child, member, inside⟩ := Draft.Holds.stored_succ_iff.mp holds
            obtain ⟨next, rfl⟩ := inside.exists_place
            obtain ⟨grandchild, deeper, _⟩ := Draft.Holds.stored_succ_iff.mp inside
            have kept := lt_size_of_child deeper
            exact ⟨next, mem_below_iff.mpr ⟨kept, place, among, member⟩, part, inside⟩

end Store

namespace Graph

variable {graph : Graph} {limit : Int}

theorem isDeeperThan_iff :
    graph.isDeeperThan limit = true ↔
      ∃ level part, graph.root.Holds graph.store level part ∧ limit < level := by
  rw [isDeeperThan]
  by_cases negative : limit < 0
  · rw [if_pos negative]
    exact iff_of_true rfl ⟨0, graph.root, .self, negative⟩
  rw [if_neg negative]
  have beyond : (∃ level part, graph.root.Holds graph.store level part ∧ limit < level) ↔
      ∃ part, graph.root.Holds graph.store (limit.toNat + 1) part := by
    constructor
    · rintro ⟨level, part, holds, deeper⟩
      exact holds.exists_above (by omega)
    · rintro ⟨part, holds⟩
      exact ⟨limit.toNat + 1, part, holds, by omega⟩
  rw [beyond]
  split
  · rename_i place root
    rw [Store.reaches_iff, root]
    simp
  · rename_i unstored
    refine iff_of_false Bool.false_ne_true ?_
    rintro ⟨part, holds⟩
    obtain ⟨place, root⟩ := holds.exists_place
    exact unstored place root

example : (Graph.mk (.stored 0) #[.list [.stored 0]]).isDeeperThan 128 = true := by decide

end Graph

end Yaml

namespace Schema

theorem checkDepth_eq (limit : Int) (value : Value) :
    checkDepth limit value = if limit < value.depth then .error (.tooDeep limit) else .ok () := by
  rw [checkDepth]
  simp only [Value.isDeeperThan_iff]

/-- The guard ends in one of two ways.  It refuses a value just if the value is deeper than the
limit, that is, if some part of it lies more levels down.  So does the guard on collections that may
lie in several places, or in themselves. -/
theorem depth_guard_exact (limit : Int) :
    (Failure.tooDeep limit).family = .safety ∧
    (∀ value : Value,
      checkDepth limit value =
        (if limit < value.depth then .error (.tooDeep limit) else .ok ()) ∧
      (limit < value.depth ↔ ∃ level part, value.Holds level part ∧ limit < level)) ∧
    ∀ graph : Yaml.Graph, graph.isDeeperThan limit = true ↔
      ∃ level part, graph.root.Holds graph.store level part ∧ limit < level := by
  refine ⟨rfl, ?_, ?_⟩
  · intro value
    exact ⟨checkDepth_eq limit value, Value.lt_depth_iff_holds⟩
  · intro graph
    exact Yaml.Graph.isDeeperThan_iff

end Schema

end InputDeck
