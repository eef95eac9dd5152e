import InputDeck.Proofs.Schema.Transparent

/-!
Schemas that go down one segment at a time.  The blocks that stand for a path are the fitting blocks
right below those that stand for the path without its last segment, and they come in the same order,
so that the best match of a path can be followed from one layer of a schema to the next.
-/

namespace InputDeck

namespace Schema

/-- A block has one segment more than what is above it, and so have all blocks below it. -/
inductive Node.Layered : List Text → Node → Prop
  | intro {above : List Text} {node : Node} (step : node.segments = above ++ [node.lastSegment])
      (children : ∀ child ∈ node.children, Node.Layered node.segments child) :
      Node.Layered above node

theorem mem_preorderIn_iff {nodes : List Node} {below : Node} :
    below ∈ preorderIn nodes ↔ ∃ node ∈ nodes, below ∈ node.preorder := by
  induction nodes with
  | nil => simp [preorderIn]
  | cons node rest ih => rw [preorderIn, List.mem_append, List.exists_mem_cons_iff, ih]

theorem Node.mem_preorder_iff {node below : Node} :
    below ∈ node.preorder ↔ below = node ∨ ∃ child ∈ node.children, below ∈ child.preorder := by
  rw [← mem_preorderIn_iff, ← List.mem_cons]
  cases node
  rfl

namespace Node.Layered

variable {above : List Text} {node child : Node}

theorem step (layered : node.Layered above) : node.segments = above ++ [node.lastSegment] := by
  cases layered with
  | intro step children => exact step

theorem children (layered : node.Layered above) :
    ∀ child ∈ node.children, child.Layered node.segments := by
  cases layered with
  | intro step children => exact children

theorem length (layered : node.Layered above) : node.segments.length = above.length + 1 := by
  rw [layered.step, List.length_append, List.length_singleton]

theorem extending (layered : node.Layered above) : node.Extending := by
  induction layered with
  | intro step children ih =>
      refine .intro (fun child member => ?_) ih
      exact ⟨child.lastSegment, [], (children child member).step⟩

theorem of_mem {below : Node} (layered : node.Layered above) (member : below ∈ node.preorder) :
    ∃ upper, below.Layered upper := by
  induction layered with
  | intro step children ih =>
      rcases mem_preorder_iff.mp member with rfl | ⟨child, inside, within⟩
      · exact ⟨_, .intro step children⟩
      · exact ih child inside within

end Node.Layered

section Standing

def standing (blocks : List Node) (path : List Text) : List Node :=
  blocks.filter (fun node => decide (node.StandsFor path))

/-- The blocks right below a block that fit a further segment of a path. -/
def Node.fitting (part : Text) (node : Node) : List Node :=
  node.children.filter (fun child => decide (Agrees child.lastSegment part))

theorem standing_append (first second : List Node) (path : List Text) :
    standing (first ++ second) path = standing first path ++ standing second path :=
  List.filter_append ..

theorem standing_eq_nil {blocks : List Node} {path : List Text}
    (none : ∀ node ∈ blocks, ¬ node.StandsFor path) : standing blocks path = [] := by
  simpa [standing] using none

theorem forall₂_concat_iff {segments path : List Text} {segment part : Text} :
    List.Forall₂ Agrees (segments ++ [segment]) (path ++ [part]) ↔
      List.Forall₂ Agrees segments path ∧ Agrees segment part := by
  rw [← List.forall₂_reverse_iff]
  simp only [List.reverse_append, List.reverse_singleton, List.singleton_append,
    List.forall₂_cons, List.forall₂_reverse_iff]
  exact and_comm

theorem Node.segments_eq (node : Node) :
    node.segments = node.segments.dropLast ++ [node.lastSegment] :=
  (List.dropLast_append_getLast _).symm

def Node.starsAbove (node : Node) : Nat :=
  node.segments.dropLast.count wildcard

theorem Node.stars_eq (node : Node) :
    node.stars = node.starsAbove + if node.lastSegment = wildcard then 1 else 0 := by
  rw [stars, starsAbove]
  conv_lhs => rw [node.segments_eq]
  rw [List.count_append, List.count_singleton]
  simp [beq_iff_eq]

theorem Node.standsFor_concat_iff {path : List Text} {node : Node} {part : Text} :
    node.StandsFor (path ++ [part]) ↔
      List.Forall₂ Agrees node.segments.dropLast path ∧ Agrees node.lastSegment part := by
  rw [Node.StandsFor]
  conv_lhs => rw [node.segments_eq]
  exact forall₂_concat_iff

theorem extending_of_layered {nodes : List Node} (layered : ∀ node ∈ nodes, node.Layered []) :
    ∀ node ∈ nodes, node.Extending := fun node member => (layered node member).extending

theorem Node.Layered.standsFor_iff {above path : List Text} {node : Node}
    (layered : node.Layered above) (part : Text) :
    node.StandsFor (path ++ [part]) ↔
      List.Forall₂ Agrees above path ∧ Agrees node.lastSegment part := by
  rw [standsFor_concat_iff, layered.step, List.dropLast_concat]

theorem standing_of_short {above path : List Text} {nodes : List Node}
    (layered : ∀ node ∈ nodes, node.Layered above) (short : path.length ≤ above.length) :
    standing (preorderIn nodes) path = [] := by
  refine standing_eq_nil fun below member stands => ?_
  obtain ⟨node, inside, reaches⟩ := segments_belowIn nodes
    (fun node inside => (layered node inside).extending) below member
  have long := (layered node inside).length
  have same := (forall₂_agrees_iff.mp stands).1
  have least := reaches.length_le
  omega

theorem standing_top {above path : List Text} {nodes : List Node} (part : Text)
    (layered : ∀ node ∈ nodes, node.Layered above) (long : path.length = above.length) :
    standing (preorderIn nodes) (path ++ [part]) =
      if List.Forall₂ Agrees above path then
        nodes.filter (fun node => decide (Agrees node.lastSegment part))
      else [] := by
  induction nodes with
  | nil => simp [preorderIn, standing]
  | cons node rest ih =>
      rw [List.forall_mem_cons] at layered
      have own : node.StandsFor (path ++ [part]) ↔ _ := layered.1.standsFor_iff part
      have inside : standing (preorderIn node.children) (path ++ [part]) = [] := by
        refine standing_of_short layered.1.children (Nat.le_of_eq ?_)
        rw [layered.1.length, List.length_append, List.length_singleton, long]
      have whole : node.preorder = node :: preorderIn node.children := by
        cases node
        rfl
      rw [preorderIn, standing_append, ih layered.2, whole, standing, List.filter_cons]
      change (if _ then node :: standing _ _ else standing _ _) ++ _ = _
      rw [inside]
      by_cases stands : List.Forall₂ Agrees above path
      · by_cases fits : Agrees node.lastSegment part <;> simp [own, stands, fits]
      · simp [own, stands]

mutual

theorem Node.standing_preorder {path : List Text} (part : Text) :
    (node : Node) → {above : List Text} → node.Layered above → above.length < path.length →
      standing node.preorder (path ++ [part]) =
        (standing node.preorder path).flatMap (Node.fitting part)
  | ⟨name, description, parameters, holdsBlocks, children, file⟩, above, layered, deep => by
      let node : Node := ⟨name, description, parameters, holdsBlocks, children, file⟩
      have whole : node.preorder = [node] ++ preorderIn children := rfl
      have long : node.segments.length = above.length + 1 := layered.length
      have fails : ¬ node.StandsFor (path ++ [part]) := by
        intro stands
        have same := (forall₂_agrees_iff.mp stands).1
        rw [List.length_append, List.length_singleton] at same
        omega
      change standing node.preorder _ = (standing node.preorder _).flatMap _
      rw [whole, standing_append, standing_append, List.flatMap_append]
      have own : standing [node] (path ++ [part]) = [] := standing_eq_nil (by simpa using fails)
      rw [own, List.nil_append]
      by_cases here : path.length = node.segments.length
      · have next : standing (preorderIn children) (path ++ [part]) =
            if List.Forall₂ Agrees node.segments path then node.fitting part else [] :=
          standing_top part layered.children here
        rw [next, standing_of_short layered.children (Nat.le_of_eq here)]
        by_cases agree : List.Forall₂ Agrees node.segments path
        · have stands : node.StandsFor path := agree
          rw [if_pos agree]
          simp [standing, stands]
        · have fails : ¬ node.StandsFor path := agree
          rw [if_neg agree]
          simp [standing, fails]
      · have passed : standing [node] path = [] := by
          refine standing_eq_nil fun other member stands => ?_
          rw [List.mem_singleton.mp member] at stands
          exact here (forall₂_agrees_iff.mp stands).1.symm
        have deeper : node.segments.length < path.length := by omega
        rw [passed]
        exact standing_preorderIn part children layered.children deeper

theorem standing_preorderIn {path : List Text} (part : Text) :
    (nodes : List Node) → {above : List Text} → (∀ node ∈ nodes, node.Layered above) →
      above.length < path.length →
      standing (preorderIn nodes) (path ++ [part]) =
        (standing (preorderIn nodes) path).flatMap (Node.fitting part)
  | [], _, _, _ => rfl
  | node :: rest, above, layered, deep => by
      rw [preorderIn, standing_append, standing_append, List.flatMap_append,
        Node.standing_preorder part node (layered node List.mem_cons_self) deep,
        standing_preorderIn part rest
          (fun other inside => layered other (List.mem_cons_of_mem node inside)) deep]

end

variable {nodes : List Node} {path : List Text} {found : Match}

theorem standing_below (layered : ∀ node ∈ nodes, node.Layered []) (given : path ≠ [])
    (part : Text) :
    standing (preorderIn nodes) (path ++ [part]) =
      (standing (preorderIn nodes) path).flatMap (Node.fitting part) :=
  standing_preorderIn part nodes layered (List.length_pos_iff.mpr given)

/-- A block is the first with the fewest stars of some blocks. -/
def Node.LeadsIn (blocks : List Node) (node : Node) : Prop :=
  ∃ before after, blocks = before ++ node :: after ∧
    (∀ other ∈ before, node.stars < other.stars) ∧ ∀ other ∈ after, node.stars ≤ other.stars

theorem bestMatch_eq_some_iff_leadsIn (layered : ∀ node ∈ nodes, node.Layered []) :
    bestMatch nodes path = some found ↔
      ∃ node : Node, node.LeadsIn (standing (preorderIn nodes) path) ∧ .of node = found := by
  rw [bestMatch, matchesIn_eq_allMatches path nodes (extending_of_layered layered),
    leastStars_eq_some_iff]
  change (∃ front behind, (standing (preorderIn nodes) path).map Match.of = _ ∧ _) ↔ _
  constructor
  · rintro ⟨front, behind, split, fewer, least⟩
    obtain ⟨before, rest, blocks, rfl, tail⟩ := List.map_eq_append_iff.mp split
    obtain ⟨node, after, rfl, rfl, rfl⟩ := List.map_eq_cons_iff.mp tail
    rw [List.forall_mem_map] at fewer least
    exact ⟨node, ⟨before, after, blocks, fewer, least⟩, rfl⟩
  · rintro ⟨node, ⟨before, after, blocks, fewer, least⟩, rfl⟩
    refine ⟨before.map Match.of, after.map Match.of, ?_, ?_, ?_⟩
    · rw [blocks, List.map_append, List.map_cons]
    · exact List.forall_mem_map.mpr fewer
    · exact List.forall_mem_map.mpr least

end Standing

section Child

variable {nodes : List Node} {path : List Text} {parent child : Node} {found : Match}

theorem Node.path_eq_iff {first second : Node} :
    first.path = second.path ↔ first.segments = second.segments := by
  constructor
  · intro same
    rw [segments, segments, same]
  · intro same
    rw [← Text.joinWith_splitOn '/' first.path, ← Text.joinWith_splitOn '/' second.path]
    exact congrArg (Text.joinWith ['/']) same

theorem Node.lastSegment_congr {first second : Node} (same : first.segments = second.segments) :
    first.lastSegment = second.lastSegment := by
  simp only [lastSegment, same]

theorem mem_standing_iff {blocks : List Node} {node : Node} :
    node ∈ standing blocks path ↔ node ∈ blocks ∧ node.StandsFor path := by
  rw [standing, List.mem_filter, decide_eq_true_iff]

variable (layered : ∀ node ∈ nodes, node.Layered [])

include layered

theorem layered_child (member : parent ∈ preorderIn nodes) :
    ∀ child ∈ parent.children, child.Layered parent.segments := by
  obtain ⟨node, inside, below⟩ := mem_preorderIn_iff.mp member
  obtain ⟨above, own⟩ := (layered node inside).of_mem below
  exact own.children

theorem starsAbove_child (member : parent ∈ preorderIn nodes) (inside : child ∈ parent.children) :
    child.starsAbove = parent.stars := by
  rw [Node.starsAbove, (layered_child layered member child inside).step, List.dropLast_concat,
    Node.stars]

theorem bestMatch_stands (best : bestMatch nodes path = some found) :
    found = .of found.node ∧ found.node ∈ preorderIn nodes ∧ found.node.StandsFor path := by
  obtain ⟨node, ⟨before, after, split, -⟩, rfl⟩ := (bestMatch_eq_some_iff_leadsIn layered).mp best
  have member : node ∈ standing (preorderIn nodes) path := by
    rw [split]
    simp
  exact ⟨rfl, mem_standing_iff.mp member⟩

/-- Of the blocks for a longer path, those right below the best match stand behind others with more
stars above their ends and in front of others with no fewer. -/
theorem standing_around (given : path ≠ []) (best : bestMatch nodes path = some found)
    (part : Text) :
    ∃ before after, standing (preorderIn nodes) (path ++ [part]) =
        before ++ (found.node.fitting part ++ after) ∧
      (∀ other ∈ before, found.node.stars < other.starsAbove) ∧
      ∀ other ∈ after, found.node.stars ≤ other.starsAbove := by
  obtain ⟨node, ⟨before, after, split, fewer, least⟩, rfl⟩ :=
    (bestMatch_eq_some_iff_leadsIn layered).mp best
  have stars : ∀ upper ∈ before ++ node :: after, ∀ other ∈ upper.fitting part,
      other.starsAbove = upper.stars := fun upper among other below =>
    starsAbove_child layered (mem_standing_iff.mp (split ▸ among)).1 (List.mem_filter.mp below).1
  refine ⟨before.flatMap (Node.fitting part), after.flatMap (Node.fitting part), ?_, ?_, ?_⟩
  · rw [standing_below layered given, split, List.flatMap_append, List.flatMap_cons]
    rfl
  · intro other member
    obtain ⟨upper, earlier, below⟩ := List.mem_flatMap.mp member
    rw [stars upper (by simp [earlier]) other below]
    exact fewer upper earlier
  · intro other member
    obtain ⟨upper, later, below⟩ := List.mem_flatMap.mp member
    rw [stars upper (by simp [later]) other below]
    exact least upper later

end Child

end Schema

end InputDeck
