import InputDeck.Proofs.Schema.Layers
import InputDeck.Proofs.Schema.Settled
import Mathlib.Data.List.Find

/-!
Merged blocks where several blocks may have one path.  In a schema that goes down one segment at a
time the first block of a path is always the first to be found and merged, so what is kept under a
path is that block with its metadata, and each query has one answer whatever has been asked before.
-/

namespace InputDeck

namespace Schema

def firstNamed? (nodes : List Node) (path : Text) : Option Node :=
  (preorderIn nodes).find? (fun node => node.path == path)

/-- What a block is merged into: the first block of its path, with its metadata. -/
def mergedAs (nodes : List Node) (table : MetadataTable) (node : Node) : Node :=
  ((firstNamed? nodes node.path).getD node).described table

/-- A loaded schema whose merged blocks are the first ones of their paths with their metadata. -/
structure Loaded.Kept (blocks : List Node) (table : MetadataTable) (loaded : Loaded) : Prop where
  nodes : loaded.nodes = blocks
  metadata : loaded.metadata = table
  merged : ∀ path known, loaded.merged.lookup path = some known →
    ∃ first, firstNamed? blocks path = some first ∧ known = first.described table

section Merging

variable {nodes : List Node} {table : MetadataTable} {node : Node} {loaded : Loaded}

theorem mergedAs_of_first (first : firstNamed? nodes node.path = some node) :
    mergedAs nodes table node = node.described table := by
  rw [mergedAs, first, Option.getD_some]

namespace Loaded

/-- Merging a block gives what its path is kept with, if it is the first one of its path or the
path is there already, and then the path is there. -/
theorem Kept.merge (kept : loaded.Kept nodes table)
    (first : loaded.merged.lookup node.path = none → firstNamed? nodes node.path = some node) :
    ((merge node).run loaded).1 = mergedAs nodes table node ∧
      ((merge node).run loaded).2.Kept nodes table ∧
      ((merge node).run loaded).2.merged.lookup node.path ≠ none := by
  cases found : loaded.merged.lookup node.path with
  | some known =>
      have run : (Loaded.merge node).run loaded = (known, loaded) := by
        simp only [Loaded.merge, StateT.run_bind, StateT.run_get, pure_bind, found]
        rfl
      obtain ⟨earliest, named, rfl⟩ := kept.merged node.path known found
      rw [run, mergedAs, named, found]
      exact ⟨rfl, kept, by simp⟩
  | none =>
      have named := first found
      rw [merge_eq_of_fresh found, kept.metadata, mergedAs_of_first named]
      refine ⟨rfl, ⟨kept.nodes, rfl, fun path known here => ?_⟩, by simp⟩
      rw [List.lookup_cons] at here
      split at here
      · next same =>
          obtain rfl := eq_of_beq same
          exact ⟨node, named, (Option.some.inj here).symm⟩
      · exact kept.merged path known here

theorem kept_merge (first : firstNamed? nodes node.path = some node) :
    Yields (Kept nodes table) (merge node) (· = node.described table) := by
  intro loaded kept
  obtain ⟨same, after, -⟩ := kept.merge fun _ => first
  exact ⟨same.trans (mergedAs_of_first first), after⟩

theorem kept_mergeAll {blocks : List Node} (kept : loaded.Kept nodes table)
    (first : ∀ node ∈ blocks, loaded.merged.lookup node.path = none →
      firstNamed? nodes node.path = blocks.find? (fun other => other.path == node.path)) :
    ((mergeAll blocks).run loaded).1 = blocks.map (mergedAs nodes table) ∧
      ((mergeAll blocks).run loaded).2.Kept nodes table := by
  induction blocks generalizing loaded with
  | nil => exact ⟨rfl, kept⟩
  | cons node rest ih =>
      have own : loaded.merged.lookup node.path = none →
          firstNamed? nodes node.path = some node := by
        intro fresh
        rw [first node List.mem_cons_self fresh]
        exact List.find?_cons_of_pos (beq_self_eq_true node.path)
      obtain ⟨same, after, there⟩ := kept.merge own
      have grows := (settles_merge node).grows loaded
      have later : ∀ other ∈ rest,
          ((merge node).run loaded).2.merged.lookup other.path = none →
            firstNamed? nodes other.path =
              rest.find? (fun another => another.path == other.path) := by
        intro other member fresh
        have differs : ¬ (node.path == other.path) = true := by
          intro equal
          rw [← eq_of_beq equal] at fresh
          exact there fresh
        have before : loaded.merged.lookup other.path = none := by
          cases found : loaded.merged.lookup other.path with
          | none => rfl
          | some known =>
              rw [grows.merged _ _ found] at fresh
              cases fresh
        exact (first other (List.mem_cons_of_mem node member) before).trans
          (List.find?_cons_of_neg differs)
      obtain ⟨others, last⟩ := ih after later
      exact ⟨congrArg₂ List.cons same others, last⟩

end Loaded

end Merging

/-! Which blocks come first. -/

section First

variable {nodes : List Node} {path : List Text} {found : Match}

theorem firstNamed?_of_bestMatch (layered : ∀ node ∈ nodes, node.Layered [])
    (best : bestMatch nodes path = some found) :
    firstNamed? nodes found.node.path = some found.node := by
  obtain ⟨node, ⟨stands, before, after, placed, fewer, -⟩, rfl⟩ :=
    (bestMatch_eq_some_iff (extending_of_layered layered)).mp best
  rw [firstNamed?, placed]
  refine List.find?_eq_some_iff_append.mpr ⟨beq_self_eq_true _, before, after, rfl, ?_⟩
  intro other earlier
  rw [Bool.not_eq_true', beq_eq_false_iff_ne]
  intro same
  have segments := Node.path_eq_iff.mp same
  have standsToo : other.StandsFor path := by
    rw [Node.StandsFor, segments]
    exact stands
  have more := fewer other earlier standsToo
  rw [Node.stars, Node.stars, segments] at more
  exact Nat.lt_irrefl _ more

theorem find?_filter_of_imp {keep question : Node → Bool} {blocks : List Node}
    (implied : ∀ node ∈ blocks, question node = true → keep node = true) :
    (blocks.filter keep).find? question = blocks.find? question := by
  rw [List.find?_filter]
  refine List.find?_congr fun node member => ?_
  cases asked : question node with
  | true => simp [implied node member asked]
  | false => simp

theorem firstNamed?_of_standsFor {node : Node} (stands : node.StandsFor path) :
    firstNamed? nodes node.path =
      (standing (preorderIn nodes) path).find? (fun other => other.path == node.path) := by
  refine (find?_filter_of_imp fun other _ same => decide_eq_true ?_).symm
  rw [Node.StandsFor, Node.path_eq_iff.mp (eq_of_beq same)]
  exact stands

theorem firstNamed?_child (layered : ∀ node ∈ nodes, node.Layered []) (given : path ≠ [])
    (best : bestMatch nodes path = some found) {child : Node}
    (inside : child ∈ found.node.children) :
    firstNamed? nodes child.path =
      found.node.children.find? (fun other => other.path == child.path) := by
  obtain ⟨-, isBlock, stands⟩ := bestMatch_stands layered best
  have layer := layered_child layered isBlock
  have childStands : child.StandsFor (path ++ [child.lastSegment]) :=
    ((layer child inside).standsFor_iff _).mpr ⟨stands, .inr rfl⟩
  obtain ⟨before, after, split, more, -⟩ := standing_around layered given best child.lastSegment
  have earlier : before.find? (fun other => other.path == child.path) = none := by
    refine List.find?_eq_none.mpr fun other member same => ?_
    have stars := more other member
    rw [Node.starsAbove, Node.path_eq_iff.mp (eq_of_beq same), ← Node.starsAbove,
      starsAbove_child layered isBlock inside] at stars
    exact Nat.lt_irrefl _ stars
  have here : (found.node.fitting child.lastSegment).find? (fun other => other.path == child.path) =
      found.node.children.find? (fun other => other.path == child.path) :=
    find?_filter_of_imp fun other _ same =>
      decide_eq_true (.inr (Node.lastSegment_congr (Node.path_eq_iff.mp (eq_of_beq same))))
  have there : (found.node.children.find? (fun other => other.path == child.path)).isSome = true :=
    List.find?_isSome.mpr ⟨child, inside, beq_self_eq_true child.path⟩
  rw [firstNamed?_of_standsFor childStands, split, List.find?_append, earlier, Option.none_or,
    List.find?_append, here, Option.or_of_isSome there]

end First

/-! What queries answer, whatever has been asked before. -/

section Answers

variable {nodes : List Node} {table : MetadataTable} {path : List Text}

def parametersOf (nodes : List Node) (path : List Text) (type : Option Text) : List Param :=
  match bestMatch nodes path with
  | none => []
  | some found =>
      match type.or (Loaded.defaultType? found.node) with
      | none | some [] => found.node.parameters
      | some type =>
          match (typedPath? path (some type) found.starLast).bind (bestMatch nodes) with
          | none => found.node.parameters
          | some typed =>
              if typed.node.path != found.node.path then
                typed.node.parameters ++ found.node.parameters
              else
                found.node.parameters

/-- Whether a block right below a type segment, or below what a star is right below, is a type. -/
def Node.isType (node : Node) : Bool :=
  node.lastSegment != wildcard && node.lastSegment != typeSegment

theorem Node.isType_congr {first second : Node} (same : first.path = second.path) :
    first.isType = second.isType := by
  rw [isType, isType, lastSegment_congr (path_eq_iff.mp same)]

def typesOf (nodes : List Node) (path : List Text) : List Node :=
  match bestMatch nodes path with
  | none => []
  | some found =>
      match bestMatch nodes (Loaded.typesPath path found.starLast) with
      | none => []
      | some parent => parent.node.children.filter Node.isType

theorem bestMatch_nil (nodes : List Node) : bestMatch nodes [] = none := by
  have empty : matchesIn [] nodes = [] := by
    induction nodes with
    | nil => rfl
    | cons node rest ih =>
        have long : ¬ (node.segments.length ≤ 0 ∧ agrees node.segments [] = true) := by
          intro reached
          exact Text.splitOn_ne_nil '/' node.path (List.length_eq_zero_iff.mp
            (Nat.le_zero.mp reached.1))
        have none : node.matches [] = [] := by
          cases node
          rw [Node.matches]
          exact if_neg long
        rw [matchesIn, none, ih, List.append_nil]
  rw [bestMatch, empty, leastStars]

variable (layered : ∀ node ∈ nodes, node.Layered [])

include layered

namespace Loaded

theorem kept_find? (path : List Text) :
    Yields (Kept nodes table) (find? path) (· = (bestMatch nodes path).map
      (fun found => { found with node := found.node.described table })) := by
  refine Yields.bind Yields.get fun loaded kept => ?_
  rw [kept.nodes]
  cases best : bestMatch nodes path with
  | none => exact Yields.pure rfl
  | some found =>
      exact (kept_merge (firstNamed?_of_bestMatch layered best)).next (Yields.pure rfl)

theorem kept_parameters (path : List Text) (type : Option Text) :
    Yields (Kept nodes table) (parameters path type) (· = parametersOf nodes path type) := by
  refine (kept_find? layered path).next ?_
  rw [parametersOf]
  cases bestMatch nodes path with
  | none => exact Yields.pure rfl
  | some found =>
      have sameType : defaultType? (found.node.described table) = defaultType? found.node := rfl
      simp only [Option.map_some, sameType]
      cases type.or (defaultType? found.node) with
      | none => exact Yields.pure rfl
      | some chosen =>
          cases chosen with
          | nil => exact Yields.pure rfl
          | cons first rest =>
              simp only
              cases typedPath? path (some (first :: rest)) found.starLast with
              | none => exact Yields.pure rfl
              | some typedPath =>
                  refine (kept_find? layered typedPath).next ?_
                  rw [Option.bind_some]
                  cases bestMatch nodes typedPath with
                  | none => exact Yields.pure rfl
                  | some typed =>
                      simp only [Option.map_some]
                      split
                      · next differs => exact Yields.pure (if_pos differs).symm
                      · next same => exact Yields.pure (if_neg same).symm

theorem kept_types (path : List Text) :
    Yields (Kept nodes table) (types path)
      (· = (typesOf nodes path).map (mergedAs nodes table)) := by
  refine (kept_find? layered path).next ?_
  rw [typesOf]
  cases bestMatch nodes path with
  | none => exact Yields.pure rfl
  | some found =>
      simp only [Option.map_some]
      split
      · next empty =>
          rw [List.isEmpty_iff.mp empty, bestMatch_nil]
          exact Yields.pure rfl
      · next filled =>
          have given : typesPath path found.starLast ≠ [] := by rwa [Ne, ← List.isEmpty_iff]
          refine (kept_find? layered _).next ?_
          cases best : bestMatch nodes (typesPath path found.starLast) with
          | none => exact Yields.pure rfl
          | some parent =>
              intro loaded kept
              refine kept_mergeAll kept fun node member _ => ?_
              obtain ⟨inside, isType⟩ := List.mem_filter.mp member
              rw [firstNamed?_child layered given best inside]
              refine (find?_filter_of_imp fun other _ same => ?_).symm
              exact (Node.isType_congr (eq_of_beq same)).trans isType

end Loaded

end Answers

/-- A catalog with a schema whose merged blocks are the first ones of their paths. -/
def Catalog.Kept (nodes : List Node) (table : MetadataTable) (catalog : Catalog) : Prop :=
  ∃ loaded, catalog.loaded = some loaded ∧ loaded.Kept nodes table

/-- A catalog as queries leave it that have been asked of a schema and its metadata. -/
def Catalog.Serves (nodes : List Node) (table : MetadataTable) (catalog : Catalog) : Prop :=
  ∃ asked queries,
    catalog = ((Query.askAll queries).run { loaded := some { nodes, metadata := table }, asked }).2

section Catalog

variable {nodes : List Node} {table : MetadataTable}

namespace Inquiry

theorem kept_subBlockPaths (path : List Text) :
    Yields (Catalog.Kept nodes table) (subBlockPaths path)
      (· = distinct (offersIn path nodes)) := by
  refine yields_present [] fun loaded kept => ⟨?_, kept⟩
  rw [← kept.nodes]
  rfl

variable (layered : ∀ node ∈ nodes, node.Layered [])

include layered

theorem kept_find? (path : List Text) :
    Yields (Catalog.Kept nodes table) (find? path) (· = (bestMatch nodes path).map
      (fun found => { found with node := found.node.described table })) := by
  cases path with
  | nil => exact Yields.pure (by rw [bestMatch_nil]; rfl)
  | cons part rest => exact yields_present none (Loaded.kept_find? layered (part :: rest))

theorem kept_parameters (path : List Text) (type : Option Text) :
    Yields (Catalog.Kept nodes table) (parameters path type)
      (· = parametersOf nodes path type) := by
  cases path with
  | nil => exact Yields.pure (by rw [parametersOf, bestMatch_nil])
  | cons part rest => exact yields_present [] (Loaded.kept_parameters layered (part :: rest) type)

theorem kept_types (path : List Text) :
    Yields (Catalog.Kept nodes table) (types path)
      (· = (typesOf nodes path).map (mergedAs nodes table)) := by
  cases path with
  | nil => exact Yields.pure (by rw [typesOf, bestMatch_nil]; rfl)
  | cons part rest => exact yields_present [] (Loaded.kept_types layered (part :: rest))

end Inquiry

namespace Query

variable (layered : ∀ node ∈ nodes, node.Layered [])

include layered

theorem keeps_ask (query : Query) :
    Yields (Catalog.Kept nodes table) query.ask (fun _ => True) := by
  cases query with
  | block path => exact (Inquiry.kept_find? layered path).next (Yields.pure trivial)
  | parameters path type =>
      exact (Inquiry.kept_parameters layered path type).next (Yields.pure trivial)
  | types path => exact (Inquiry.kept_types layered path).next (Yields.pure trivial)
  | subBlockPaths path => exact (Inquiry.kept_subBlockPaths path).next (Yields.pure trivial)

theorem keeps_askAll (queries : List Query) :
    Yields (Catalog.Kept nodes table) (askAll queries) (fun _ => True) := by
  induction queries with
  | nil => exact Yields.pure trivial
  | cons query rest ih =>
      exact (query.keeps_ask layered).bind fun _ _ => ih.bind fun _ _ => Yields.pure trivial

end Query

namespace Catalog.Serves

variable {catalog : Catalog} (serves : catalog.Serves nodes table)
  (layered : ∀ node ∈ nodes, node.Layered [])

include serves layered

theorem kept : catalog.Kept nodes table := by
  obtain ⟨asked, queries, rfl⟩ := serves
  have fresh : Kept nodes table { loaded := some { nodes, metadata := table }, asked } :=
    ⟨_, rfl, rfl, rfl, by simp⟩
  exact (Query.keeps_askAll layered queries _ fresh).2

theorem find?_eq (path : List Text) :
    ((Inquiry.find? path).run catalog).1 = (bestMatch nodes path).map
      (fun found => { found with node := found.node.described table }) :=
  (Inquiry.kept_find? layered path catalog (serves.kept layered)).1

theorem parameters_eq (path : List Text) (type : Option Text) :
    ((Inquiry.parameters path type).run catalog).1 = parametersOf nodes path type :=
  (Inquiry.kept_parameters layered path type catalog (serves.kept layered)).1

theorem types_eq (path : List Text) :
    ((Inquiry.types path).run catalog).1 = (typesOf nodes path).map (mergedAs nodes table) :=
  (Inquiry.kept_types layered path catalog (serves.kept layered)).1

end Catalog.Serves

end Catalog

end Schema

end InputDeck
