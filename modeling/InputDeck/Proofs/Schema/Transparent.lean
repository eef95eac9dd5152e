import InputDeck.Proofs.Schema.Every
import InputDeck.Proofs.Schema.Preorder
import Mathlib.Data.List.Nodup

/-!
Merged blocks as a cache.  Where no two blocks of a schema have the same path, what has been merged
before cannot be told from the answer to a query: each query answers as it would if it were the
first, and whatever is kept under a path is the block of that path with its metadata.
-/

namespace InputDeck

namespace Schema

/-- A text that is there and not empty. -/
def given (text : Option Text) : Option Text :=
  text.filter (fun characters => !characters.isEmpty)

/-- A block with the description and the file that a table gives for its path, as far as it gives
them and they are not empty. -/
def Node.described (table : MetadataTable) (node : Node) : Node :=
  { node with
    description := (given ((table.lookup node.path).bind (·.description))).getD node.description,
    file := (given ((table.lookup node.path).bind (·.file))).or node.file }

structure Loaded.Faithful (blocks : List Node) (table : MetadataTable) (loaded : Loaded) :
    Prop where
  nodes : loaded.nodes = blocks
  metadata : loaded.metadata = table
  merged : ∀ entry ∈ loaded.merged,
    ∃ node ∈ preorderIn blocks, entry = (node.path, node.described table)

/-- A question with one answer in all states that have an invariant, which it keeps. -/
def Constant {σ α : Type} (invariant : σ → Prop) (question : StateM σ α) : Prop :=
  ∃ answer, Yields invariant question (· = answer)

section Constant

variable {σ α β : Type} {invariant : σ → Prop} {first : StateM σ α} {second : α → StateM σ β}
  {value : α}

theorem Yields.next {result : β → Prop} (one : Yields invariant first (· = value))
    (two : Yields invariant (second value) result) : Yields invariant (first >>= second) result :=
  one.bind fun _ same => same ▸ two

theorem Constant.pure (value : α) : Constant invariant (Pure.pure value : StateM σ α) :=
  ⟨value, Yields.pure rfl⟩

theorem Constant.next (one : Yields invariant first (· = value))
    (two : Constant invariant (second value)) : Constant invariant (first >>= second) := by
  obtain ⟨answer, yields⟩ := two
  exact ⟨answer, one.next yields⟩

end Constant

section Below

theorem Node.mem_preorder (node : Node) : node ∈ node.preorder := by
  cases node
  exact List.mem_cons_self

theorem preorder_subset {node : Node} {nodes : List Node} (member : node ∈ nodes) :
    node.preorder ⊆ preorderIn nodes := by
  induction nodes with
  | nil => cases member
  | cons first rest ih =>
      rw [preorderIn]
      rcases List.mem_cons.mp member with rfl | later
      · exact List.subset_append_left _ _
      · exact List.Subset.trans (ih later) (List.subset_append_right _ _)

mutual

theorem Node.child_mem_preorder {parent child : Node} (member : child ∈ parent.children) :
    (node : Node) → parent ∈ node.preorder → child ∈ node.preorder
  | ⟨name, description, parameters, holdsBlocks, children, file⟩, inside => by
      rcases List.mem_cons.mp inside with rfl | below
      · exact List.mem_cons_of_mem _ (preorder_subset member child.mem_preorder)
      · exact List.mem_cons_of_mem _ (child_mem_preorderIn member children below)

theorem child_mem_preorderIn {parent child : Node} (member : child ∈ parent.children) :
    (nodes : List Node) → parent ∈ preorderIn nodes → child ∈ preorderIn nodes
  | [], inside => by cases inside
  | node :: rest, inside => by
      rw [preorderIn] at inside ⊢
      rcases List.mem_append.mp inside with first | later
      · exact List.mem_append_left _ (Node.child_mem_preorder member node first)
      · exact List.mem_append_right _ (child_mem_preorderIn member rest later)

end

mutual

theorem Node.mem_of_matches (path : List Text) :
    (node : Node) → ∀ found ∈ node.matches path, found.node ∈ node.preorder
  | ⟨name, description, parameters, holdsBlocks, children, file⟩, found, member => by
      simp only [Node.matches] at member
      split at member
      · split at member
        · rw [List.mem_singleton.mp member]
          exact Node.mem_preorder _
        · exact List.mem_cons_of_mem _ (mem_of_matchesIn path children found member)
      · cases member

theorem mem_of_matchesIn (path : List Text) :
    (nodes : List Node) → ∀ found ∈ matchesIn path nodes, found.node ∈ preorderIn nodes
  | [], _, member => by
      rw [matchesIn] at member
      cases member
  | node :: rest, found, member => by
      rw [matchesIn] at member
      rw [preorderIn]
      rcases List.mem_append.mp member with first | later
      · exact List.mem_append_left _ (node.mem_of_matches path found first)
      · exact List.mem_append_right _ (mem_of_matchesIn path rest found later)

end

end Below

variable {nodes : List Node} {table : MetadataTable}

namespace Loaded

theorem merge_eq_of_fresh {loaded : Loaded} {node : Node}
    (fresh : loaded.merged.lookup node.path = none) :
    (merge node).run loaded = (node.described loaded.metadata,
      { loaded with merged := (node.path, node.described loaded.metadata) :: loaded.merged }) := by
  simp only [merge, StateT.run_bind, StateT.run_get, pure_bind, fresh]
  cases found : loaded.metadata.lookup node.path with
  | some metadata =>
      have described : node.described loaded.metadata = node.withMetadata metadata := by
        simp [Node.described, found, Node.withMetadata, given]
      rw [described]
      rfl
  | none =>
      have described : node.described loaded.metadata = node := by
        rw [Node.described, found]
        cases node
        rfl
      rw [described]
      rfl

section Distinct

variable (distinct : ((preorderIn nodes).map Node.path).Nodup)

include distinct

theorem faithful_merge {node : Node} (member : node ∈ preorderIn nodes) :
    Yields (Faithful nodes table) (merge node) (· = node.described table) := by
  intro loaded kept
  cases found : loaded.merged.lookup node.path with
  | some known =>
      obtain ⟨before, after, split, -⟩ := List.lookup_eq_some_iff.mp found
      obtain ⟨other, inside, same⟩ := kept.merged (node.path, known) (by rw [split]; simp)
      obtain ⟨path, rfl⟩ := Prod.mk.inj same
      obtain rfl := List.inj_on_of_nodup_map distinct member inside path
      have run : (merge node).run loaded = (node.described table, loaded) := by
        simp only [merge, StateT.run_bind, StateT.run_get, pure_bind, found]
        rfl
      rw [run]
      exact ⟨rfl, kept⟩
  | none =>
      rw [merge_eq_of_fresh found, kept.metadata]
      refine ⟨rfl, kept.nodes, rfl, fun entry inside => ?_⟩
      rcases List.mem_cons.mp inside with rfl | earlier
      · exact ⟨node, member, rfl⟩
      · exact kept.merged entry earlier

theorem faithful_mergeAll {blocks : List Node} (below : ∀ node ∈ blocks, node ∈ preorderIn nodes) :
    Yields (Faithful nodes table) (mergeAll blocks) (· = blocks.map (Node.described table)) := by
  induction blocks with
  | nil => exact Yields.pure rfl
  | cons node rest ih =>
      rw [List.forall_mem_cons] at below
      exact (faithful_merge distinct below.1).next ((ih below.2).next (Yields.pure rfl))

theorem faithful_find? (path : List Text) :
    Yields (Faithful nodes table) (find? path) (· = (bestMatch nodes path).map
      (fun found => { found with node := found.node.described table })) := by
  refine Yields.bind Yields.get fun loaded kept => ?_
  rw [kept.nodes]
  cases best : bestMatch nodes path with
  | none => exact Yields.pure rfl
  | some found =>
      have member := mem_of_matchesIn path nodes found (mem_of_leastStars best)
      exact (faithful_merge distinct member).next (Yields.pure rfl)

theorem constant_parameters (path : List Text) (type : Option Text) :
    Constant (Faithful nodes table) (parameters path type) := by
  refine Constant.next (faithful_find? distinct path) ?_
  split
  · exact Constant.pure []
  · dsimp only
    split
    · exact Constant.pure _
    · exact Constant.pure _
    · split
      · refine Constant.next (faithful_find? distinct _) ?_
        split
        · split <;> exact Constant.pure _
        · exact Constant.pure _
      · exact Constant.pure _

theorem constant_types (path : List Text) : Constant (Faithful nodes table) (types path) := by
  refine Constant.next (faithful_find? distinct path) ?_
  split
  · exact Constant.pure []
  · next found _ =>
    dsimp only
    split
    · exact Constant.pure []
    · refine Constant.next (faithful_find? distinct _) ?_
      cases best : bestMatch nodes (typesPath path found.starLast) with
      | none => exact Constant.pure []
      | some parent =>
          simp only [Option.map_some]
          refine ⟨_, faithful_mergeAll distinct fun node member => ?_⟩
          have inside : node ∈ parent.node.children := (List.mem_filter.mp member).1
          have below := mem_of_matchesIn _ nodes parent (mem_of_leastStars best)
          exact child_mem_preorderIn inside nodes below

end Distinct

theorem constant_subBlockPaths (path : List Text) :
    Constant (Faithful nodes table)
      (do return (← get).subBlockPaths path : StateM Loaded (List Text)) := by
  refine ⟨distinct (offersIn path nodes), fun loaded kept => ⟨?_, kept⟩⟩
  rw [← kept.nodes]
  rfl

end Loaded

/-- A catalog with a schema whose merged blocks are blocks of the schema with their metadata. -/
def Catalog.Faithful (nodes : List Node) (table : MetadataTable) (catalog : Catalog) : Prop :=
  ∃ loaded, catalog.loaded = some loaded ∧ loaded.Faithful nodes table

theorem Inquiry.yields_present {α : Type} {invariant : Loaded → Prop} {result : α → Prop}
    (default : α) {query : StateM Loaded α} (yields : Yields invariant query result) :
    Yields (fun catalog => ∃ loaded, catalog.loaded = some loaded ∧ invariant loaded)
      (ask default query) result := by
  rintro catalog ⟨loaded, present, kept⟩
  have run : (ask default query).run catalog = ((query.run loaded).1,
      { loaded := some (query.run loaded).2, asked := catalog.asked + 1 }) := by
    simp only [ask, StateT.run_bind, StateT.run_get, pure_bind, present]
    rfl
  rw [run]
  obtain ⟨holds, keptAfter⟩ := yields loaded kept
  exact ⟨holds, _, rfl, keptAfter⟩

theorem Inquiry.constant_ask {α : Type} (default : α) {query : StateM Loaded α}
    (constant : Constant (Loaded.Faithful nodes table) query) :
    Constant (Catalog.Faithful nodes table) (ask default query) := by
  obtain ⟨answer, yields⟩ := constant
  exact ⟨answer, yields_present default yields⟩

inductive Query where
  | block (path : List Text)
  | parameters (path : List Text) (type : Option Text)
  | types (path : List Text)
  | subBlockPaths (path : List Text)
deriving DecidableEq, Repr

inductive Answer where
  | block (found : Option Match)
  | parameters (params : List Param)
  | types (nodes : List Node)
  | subBlockPaths (paths : List Text)
deriving Repr

namespace Query

def ask : Query → Inquiry Answer
  | block path => return .block (← Inquiry.find? path)
  | parameters path type => return .parameters (← Inquiry.parameters path type)
  | types path => return .types (← Inquiry.types path)
  | subBlockPaths path => return .subBlockPaths (← Inquiry.subBlockPaths path)

def askAll : List Query → Inquiry (List Answer)
  | [] => return []
  | query :: rest => do
      let answer ← query.ask
      return answer :: (← askAll rest)

/-- The answer to a query that is the first to be asked of a schema. -/
def first (nodes : List Node) (table : MetadataTable) (query : Query) : Answer :=
  (query.ask.run { loaded := some { nodes, metadata := table } }).1

theorem faithful_fresh (nodes : List Node) (table : MetadataTable) (asked : Nat) :
    Catalog.Faithful nodes table { loaded := some { nodes, metadata := table }, asked } :=
  ⟨_, rfl, rfl, rfl, by simp⟩

section Distinct

variable (distinct : ((preorderIn nodes).map Node.path).Nodup)

include distinct

theorem constant_ask (query : Query) : Constant (Catalog.Faithful nodes table) query.ask := by
  have wrapped {α : Type} (wrap : α → Answer) {inquiry : Inquiry α}
      (constant : Constant (Catalog.Faithful nodes table) inquiry) :
      Constant (Catalog.Faithful nodes table) (do return wrap (← inquiry)) := by
    obtain ⟨answer, yields⟩ := constant
    exact Constant.next yields (Constant.pure (wrap answer))
  cases query with
  | block path =>
      refine wrapped .block ?_
      unfold Inquiry.find?
      split
      · exact Constant.pure none
      · exact Inquiry.constant_ask none ⟨_, Loaded.faithful_find? distinct path⟩
  | parameters path type =>
      refine wrapped .parameters ?_
      unfold Inquiry.parameters
      split
      · exact Constant.pure []
      · exact Inquiry.constant_ask [] (Loaded.constant_parameters distinct path type)
  | types path =>
      refine wrapped .types ?_
      unfold Inquiry.types
      split
      · exact Constant.pure []
      · exact Inquiry.constant_ask [] (Loaded.constant_types distinct path)
  | subBlockPaths path =>
      exact wrapped .subBlockPaths
        (Inquiry.constant_ask [] (Loaded.constant_subBlockPaths path))

theorem ask_eq_first (query : Query) :
    Yields (Catalog.Faithful nodes table) query.ask (· = query.first nodes table) := by
  obtain ⟨answer, yields⟩ := query.constant_ask distinct
  have fresh : query.first nodes table = answer := (yields _ (faithful_fresh nodes table 0)).1
  rw [fresh]
  exact yields

theorem askAll_eq_first (queries : List Query) :
    Yields (Catalog.Faithful nodes table) (askAll queries)
      (· = queries.map (first nodes table)) := by
  induction queries with
  | nil => exact Yields.pure rfl
  | cons query rest ih => exact (query.ask_eq_first distinct).next (ih.next (Yields.pure rfl))

/-- Whatever queries are asked of a schema, each has the answer that it has when it is the first,
and what is kept are blocks of the schema, under their paths, with their metadata. -/
theorem queries_answer_as_first (asked : Nat) (queries : List Query) :
    ((askAll queries).run { loaded := some { nodes, metadata := table }, asked }).1 =
      queries.map (first nodes table) ∧
    Catalog.Faithful nodes table
      ((askAll queries).run { loaded := some { nodes, metadata := table }, asked }).2 :=
  askAll_eq_first distinct queries _ (faithful_fresh nodes table asked)

end Distinct

def kernels : List Node :=
  [{ name := "/Kernels".toList, holdsBlocks := true,
     children := [
      { name := "/Kernels/*".toList, description := "any".toList },
      { name := "/Kernels/Diffusion".toList, description := "old".toList }] }]

def kernelsTable : MetadataTable :=
  [("Kernels/Diffusion".toList, { description := some "new".toList, file := some "D.C".toList }),
    ("Kernels/*".toList, { description := some [], file := some "K.C".toList })]

theorem kernels_answer :
    ((preorderIn kernels).map Node.path).Nodup ∧
    ((askAll [.types ["Kernels".toList, ['u']], .block ["Kernels".toList, ['u']],
        .types ["Kernels".toList, ['u']]]).run
          { loaded := some { nodes := kernels, metadata := kernelsTable } }).1 =
      [.types [{
          name := "/Kernels/Diffusion".toList, description := "new".toList,
          file := some "D.C".toList }],
        .block (some ⟨{
          name := "/Kernels/*".toList, description := "any".toList,
          file := some "K.C".toList }, 1, true⟩),
        .types [{
          name := "/Kernels/Diffusion".toList, description := "new".toList,
          file := some "D.C".toList }]] := by
  have distinct : ((preorderIn kernels).map Node.path).Nodup := by decide
  exact ⟨distinct, (queries_answer_as_first distinct 0 _).1.trans (by rfl)⟩

end Query

end Schema

end InputDeck
