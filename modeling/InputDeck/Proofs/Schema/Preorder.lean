import InputDeck.Schema.Catalog
import Mathlib.Data.List.Forall2

/-!
The block that a path names, among all blocks of a schema.  The search passes over the blocks below
one that disagrees with the path or is as long as the path.  Where the path of each block properly
extends the path of the block above it, nothing is lost: the search gives what going through all
blocks in preorder gives, the first block that stands for the path with the fewest stars.
-/

namespace InputDeck

namespace Schema

mutual

def Node.preorder : Node → List Node
  | ⟨name, description, parameters, holdsBlocks, children, file⟩ =>
      ⟨name, description, parameters, holdsBlocks, children, file⟩ :: preorderIn children

def preorderIn : List Node → List Node
  | [] => []
  | node :: rest => node.preorder ++ preorderIn rest

end

/-- The path of each block below a block properly extends the path of the one right above it. -/
inductive Node.Extending : Node → Prop
  | intro {node : Node}
      (extended : ∀ child ∈ node.children,
        ∃ segment rest, child.segments = node.segments ++ segment :: rest)
      (children : ∀ child ∈ node.children, Node.Extending child) : Node.Extending node

/-- A segment that agrees with a part of a path: a star agrees with any. -/
def Agrees (segment part : Text) : Prop :=
  segment = wildcard ∨ segment = part

instance (segment part : Text) : Decidable (Agrees segment part) :=
  inferInstanceAs (Decidable (segment = wildcard ∨ segment = part))

/-- A block whose path is as long as a path and agrees with it everywhere. -/
def Node.StandsFor (path : List Text) (node : Node) : Prop :=
  List.Forall₂ Agrees node.segments path

def Node.stars (node : Node) : Nat :=
  node.segments.count wildcard

/-- The first of the blocks that stand for a path with the fewest stars. -/
structure FirstOfFewest (path : List Text) (blocks : List Node) (node : Node) : Prop where
  standsFor : node.StandsFor path
  placed : ∃ before after, blocks = before ++ node :: after ∧
    (∀ other ∈ before, other.StandsFor path → node.stars < other.stars) ∧
    (∀ other ∈ after, other.StandsFor path → node.stars ≤ other.stars)

section Agreement

theorem forall₂_agrees_iff {segments path : List Text} :
    List.Forall₂ Agrees segments path ↔
      segments.length = path.length ∧ agrees segments path = true := by
  induction segments generalizing path with
  | nil => cases path <;> simp [agrees]
  | cons segment segments ih =>
      cases path with
      | nil => simp
      | cons part path => simp [agrees, Agrees, ih]; tauto

theorem agrees_of_append {segments rest path : List Text}
    (agree : agrees (segments ++ rest) path = true) : agrees segments path = true := by
  induction segments generalizing path with
  | nil => simp [agrees]
  | cons segment segments ih =>
      cases path with
      | nil => rfl
      | cons part path =>
          simp only [List.cons_append, agrees, Bool.and_eq_true] at agree ⊢
          exact ⟨agree.1, ih agree.2⟩

instance (path : List Text) (node : Node) : Decidable (node.StandsFor path) :=
  decidable_of_iff _ forall₂_agrees_iff.symm

theorem Node.StandsFor.above {path : List Text} {node below : Node}
    (stands : below.StandsFor path) (above : node.segments <+: below.segments) :
    node.segments.length ≤ path.length ∧ agrees node.segments path = true := by
  obtain ⟨long, agree⟩ := forall₂_agrees_iff.mp stands
  obtain ⟨rest, split⟩ := above
  rw [← split] at long agree
  rw [List.length_append] at long
  exact ⟨by omega, agrees_of_append agree⟩

end Agreement

section Descent

namespace Node.Extending

theorem extended {node : Node} (extending : node.Extending) :
    ∀ child ∈ node.children,
      ∃ segment rest, child.segments = node.segments ++ segment :: rest := by
  cases extending with
  | intro extended children => exact extended

theorem children {node : Node} (extending : node.Extending) :
    ∀ child ∈ node.children, child.Extending := by
  cases extending with
  | intro extended children => exact children

end Node.Extending

mutual

theorem Node.segments_below :
    (node : Node) → node.Extending → ∀ below ∈ node.preorder, node.segments <+: below.segments
  | ⟨name, description, parameters, holdsBlocks, children, file⟩, extending, below, member => by
      rcases List.mem_cons.mp member with rfl | inside
      · exact List.prefix_rfl
      · obtain ⟨child, isChild, above⟩ :=
          segments_belowIn children extending.children below inside
        obtain ⟨segment, rest, split⟩ := extending.extended child isChild
        exact (split ▸ List.prefix_append _ _).trans above

theorem segments_belowIn :
    (nodes : List Node) → (∀ node ∈ nodes, node.Extending) →
      ∀ below ∈ preorderIn nodes, ∃ node ∈ nodes, node.segments <+: below.segments
  | [], _, _, member => by cases member
  | node :: rest, extending, below, member => by
      rcases List.mem_append.mp member with first | later
      · exact ⟨node, List.mem_cons_self,
          node.segments_below (extending node List.mem_cons_self) below first⟩
      · obtain ⟨other, inside, above⟩ := segments_belowIn rest
          (fun other inside => extending other (List.mem_cons_of_mem node inside)) below later
        exact ⟨other, List.mem_cons_of_mem node inside, above⟩

end

theorem Node.Extending.longer {node below : Node} (extending : node.Extending)
    (member : below ∈ preorderIn node.children) :
    node.segments.length < below.segments.length := by
  obtain ⟨child, isChild, above⟩ := segments_belowIn _ extending.children below member
  obtain ⟨segment, rest, split⟩ := extending.extended child isChild
  have reaches := above.length_le
  rw [split, List.length_append, List.length_cons] at reaches
  omega

end Descent

section Search

def allMatches (path : List Text) (blocks : List Node) : List Match :=
  (blocks.filter (fun node => decide (node.StandsFor path))).map .of

theorem allMatches_append (path : List Text) (first second : List Node) :
    allMatches path (first ++ second) = allMatches path first ++ allMatches path second := by
  simp [allMatches]

theorem allMatches_eq_nil {path : List Text} {blocks : List Node}
    (none : ∀ node ∈ blocks, ¬ node.StandsFor path) : allMatches path blocks = [] := by
  simpa [allMatches] using none

mutual

theorem Node.matches_eq_allMatches (path : List Text) :
    (node : Node) → node.Extending → node.matches path = allMatches path node.preorder
  | ⟨name, description, parameters, holdsBlocks, children, file⟩, extending => by
      let node : Node := ⟨name, description, parameters, holdsBlocks, children, file⟩
      change node.matches path = allMatches path ([node] ++ preorderIn children)
      rw [allMatches_append, Node.matches]
      split
      · next reached =>
          split
          · next long =>
              have stands : node.StandsFor path := forall₂_agrees_iff.mpr ⟨long, reached.2⟩
              have below : allMatches path (preorderIn children) = [] := by
                refine allMatches_eq_nil fun other member other_stands => ?_
                have longer := extending.longer member
                have same := (forall₂_agrees_iff.mp other_stands).1
                omega
              rw [below]
              simp [allMatches, stands, node]
          · next short =>
              have fails : ¬ node.StandsFor path := fun stands =>
                short (forall₂_agrees_iff.mp stands).1
              rw [matchesIn_eq_allMatches path children extending.children]
              simp [allMatches, fails]
      · next disagrees =>
          rw [← allMatches_append, allMatches_eq_nil]
          exact fun below member stands =>
            disagrees (stands.above (node.segments_below extending below member))

theorem matchesIn_eq_allMatches (path : List Text) :
    (nodes : List Node) → (∀ node ∈ nodes, node.Extending) →
      matchesIn path nodes = allMatches path (preorderIn nodes)
  | [], _ => rfl
  | node :: rest, extending => by
      rw [matchesIn, preorderIn, allMatches_append,
        node.matches_eq_allMatches path (extending node List.mem_cons_self),
        matchesIn_eq_allMatches path rest
          (fun other inside => extending other (List.mem_cons_of_mem node inside))]

end

end Search

section Choice

theorem leastStars_eq_none_iff {matched : List Match} :
    leastStars matched = none ↔ matched = [] := by
  cases matched with
  | nil => simp [leastStars]
  | cons first rest =>
      simp only [leastStars, reduceCtorEq, iff_false]
      split
      · split <;> simp
      · simp

/-- All matches in front of the one that is taken have more stars, those behind it no fewer. -/
theorem leastStars_eq_some_iff {matched : List Match} {found : Match} :
    leastStars matched = some found ↔
      ∃ before after, matched = before ++ found :: after ∧
        (∀ other ∈ before, found.stars < other.stars) ∧
        (∀ other ∈ after, found.stars ≤ other.stars) := by
  induction matched generalizing found with
  | nil => simp [leastStars]
  | cons first rest ih =>
      constructor
      · intro least
        cases later : leastStars rest with
        | none =>
            obtain rfl := leastStars_eq_none_iff.mp later
            obtain rfl : first = found := by simpa [leastStars] using least
            exact ⟨[], [], rfl, by simp, by simp⟩
        | some better =>
            obtain ⟨before, after, rfl, front, behind⟩ := ih.mp later
            simp only [leastStars, later] at least
            split at least
            · next fewer =>
                obtain rfl := Option.some.inj least
                exact ⟨first :: before, after, rfl, by simpa using ⟨fewer, front⟩, behind⟩
            · next fewer =>
                obtain rfl := Option.some.inj least
                refine ⟨[], before ++ better :: after, rfl, by simp, fun other member => ?_⟩
                rcases List.mem_append.mp member with early | late
                · have := front other early
                  omega
                · rcases List.mem_cons.mp late with rfl | late
                  · omega
                  · have := behind other late
                    omega
      · rintro ⟨before, after, split, front, behind⟩
        cases before with
        | nil =>
            obtain ⟨rfl, rfl⟩ := List.cons.inj split
            cases later : leastStars rest with
            | none => simp [leastStars, later]
            | some better =>
                obtain ⟨before, after, rfl, -, -⟩ := ih.mp later
                have := behind better (by simp)
                simp [leastStars, later, Nat.not_lt.mpr this]
        | cons earlier before =>
            obtain ⟨rfl, rest_eq⟩ := List.cons.inj split
            rw [List.append_eq] at rest_eq
            have later := ih.mpr ⟨before, after, rest_eq,
              fun other member => front other (List.mem_cons_of_mem _ member), behind⟩
            simp [leastStars, later, front first List.mem_cons_self]

theorem mem_allMatches {path : List Text} {blocks : List Node} {found : Match} :
    found ∈ allMatches path blocks ↔
      ∃ node ∈ blocks, node.StandsFor path ∧ .of node = found := by
  simp [allMatches, and_assoc]

theorem allMatches_eq_append_cons_iff {path : List Text} {blocks : List Node} {found : Match}
    {front behind : List Match} :
    allMatches path blocks = front ++ found :: behind ↔
      ∃ before node after, blocks = before ++ node :: after ∧ node.StandsFor path ∧
        allMatches path before = front ∧ .of node = found ∧ allMatches path after = behind := by
  constructor
  · intro split
    obtain ⟨first, second, filtered, rfl, second_eq⟩ := List.map_eq_append_iff.mp split
    obtain ⟨node, others, rfl, rfl, rfl⟩ := List.map_eq_cons_iff.mp second_eq
    obtain ⟨before, rest, rfl, rfl, rest_eq⟩ := List.filter_eq_append_iff.mp filtered
    obtain ⟨passed, after, rfl, fails, stands, rfl⟩ := List.filter_eq_cons_iff.mp rest_eq
    refine ⟨before ++ passed, node, after, by simp, by simpa using stands, ?_, rfl, rfl⟩
    have none : allMatches path passed = [] := allMatches_eq_nil (by simpa using fails)
    rw [allMatches_append, none, List.append_nil]
    rfl
  · rintro ⟨before, node, after, rfl, stands, rfl, rfl, rfl⟩
    rw [allMatches_append]
    simp [allMatches, stands]

theorem leastStars_allMatches_iff {path : List Text} {blocks : List Node} {found : Match} :
    leastStars (allMatches path blocks) = some found ↔
      ∃ node, FirstOfFewest path blocks node ∧ .of node = found := by
  rw [leastStars_eq_some_iff]
  constructor
  · rintro ⟨front, behind, split, fewer, least⟩
    obtain ⟨before, node, after, placed, stands, rfl, rfl, rfl⟩ :=
      allMatches_eq_append_cons_iff.mp split
    refine ⟨node, ⟨stands, before, after, placed, ?_, ?_⟩, rfl⟩
    · exact fun other member standsToo =>
        fewer (.of other) (mem_allMatches.mpr ⟨other, member, standsToo, rfl⟩)
    · exact fun other member standsToo =>
        least (.of other) (mem_allMatches.mpr ⟨other, member, standsToo, rfl⟩)
  · rintro ⟨node, ⟨stands, before, after, placed, fewer, least⟩, rfl⟩
    refine ⟨allMatches path before, allMatches path after,
      allMatches_eq_append_cons_iff.mpr ⟨before, node, after, placed, stands, rfl, rfl, rfl⟩,
      ?_, ?_⟩
    · intro other member
      obtain ⟨block, inside, standsToo, rfl⟩ := mem_allMatches.mp member
      exact fewer block inside standsToo
    · intro other member
      obtain ⟨block, inside, standsToo, rfl⟩ := mem_allMatches.mp member
      exact least block inside standsToo

end Choice

section Query

theorem bestMatch_eq_some_iff {nodes : List Node} (extending : ∀ node ∈ nodes, node.Extending)
    {path : List Text} {found : Match} :
    bestMatch nodes path = some found ↔
      ∃ node, FirstOfFewest path (preorderIn nodes) node ∧ .of node = found := by
  rw [bestMatch, matchesIn_eq_allMatches path nodes extending, leastStars_allMatches_iff]

theorem bestMatch_eq_none_iff {nodes : List Node} (extending : ∀ node ∈ nodes, node.Extending)
    {path : List Text} :
    bestMatch nodes path = none ↔ ∀ node ∈ preorderIn nodes, ¬ node.StandsFor path := by
  rw [bestMatch, matchesIn_eq_allMatches path nodes extending, leastStars_eq_none_iff]
  simp [allMatches]

theorem Inquiry.find?_eq_map_bestMatch (loaded : Loaded) (asked : Nat) {path : List Text}
    (given : path ≠ []) :
    ((Inquiry.find? path).run ⟨some loaded, asked⟩).1 =
      (bestMatch loaded.nodes path).map
        (fun found => { found with node := ((Loaded.merge found.node).run loaded).1 }) := by
  have asks : Inquiry.find? path = Inquiry.ask none (Loaded.find? path) := by
    simp [Inquiry.find?, given]
  rw [asks]
  change ((Loaded.find? path).run loaded).1 = _
  rw [Loaded.find?]
  cases best : bestMatch loaded.nodes path with
  | none =>
      simp only [StateT.run_bind, StateT.run_get, pure_bind, best]
      rfl
  | some found =>
      simp only [StateT.run_bind, StateT.run_get, pure_bind, best]
      rfl

/-- Searching with blocks passed over selects what going through all blocks selects: the first of
those with the fewest stars that stand for the path, its number of stars, and whether the last
segment is one.  There is none exactly when no block stands for the path. -/
theorem find?_eq_first_of_fewest (loaded : Loaded) (asked : Nat)
    (extending : ∀ node ∈ loaded.nodes, node.Extending) (path : List Text) (given : path ≠ []) :
    (∀ found, bestMatch loaded.nodes path = some found ↔
      ∃ node, FirstOfFewest path (preorderIn loaded.nodes) node ∧
        found = ⟨node, node.stars, decide (node.segments.getLast? = some wildcard)⟩) ∧
    (bestMatch loaded.nodes path = none ↔
      ∀ node ∈ preorderIn loaded.nodes, ¬ node.StandsFor path) ∧
    ((Inquiry.find? path).run ⟨some loaded, asked⟩).1 =
      (bestMatch loaded.nodes path).map
        (fun found => { found with node := ((Loaded.merge found.node).run loaded).1 }) := by
  refine ⟨fun found => ?_, bestMatch_eq_none_iff extending,
    Inquiry.find?_eq_map_bestMatch loaded asked given⟩
  have of_eq : ∀ node : Node, Match.of node =
      ⟨node, node.stars, decide (node.segments.getLast? = some wildcard)⟩ := by
    intro node
    have last : node.segments.getLast? = some node.lastSegment :=
      List.getLast?_eq_some_getLast _
    rw [last, Match.of]
    simp [Node.stars, beq_eq_decide]
  rw [bestMatch_eq_some_iff extending]
  simp only [of_eq, eq_comm]

def Node.bare (name : String) (children : List Node) : Node :=
  { name := name.toList, children }

def overlapping : List Node :=
  [.bare "/*" [.bare "/*/*" [], .bare "/*/u" []],
   .bare "/Kernels" [.bare "/Kernels/*" [.bare "/Kernels/*/<type>" []]]]

theorem Node.extending_bare {name : String} {children : List Node}
    (extended : ∀ child ∈ children,
      (bare name children).segments.length < child.segments.length ∧
        (bare name children).segments.isPrefixOf child.segments = true)
    (inside : ∀ child ∈ children, child.Extending) : (bare name children).Extending := by
  refine .intro (fun child member => ?_) inside
  obtain ⟨longer, above⟩ := extended child member
  obtain ⟨rest, split⟩ := List.isPrefixOf_iff_prefix.mp above
  rw [← split, List.length_append] at longer
  obtain ⟨segment, rest, rfl⟩ := List.exists_cons_of_length_pos (l := rest) (by omega)
  exact ⟨segment, rest, split.symm⟩

theorem overlapping_extending : ∀ node ∈ overlapping, node.Extending := by
  have leaf : ∀ name, (Node.bare name []).Extending := fun name =>
    Node.extending_bare (by simp) (by simp)
  have typed : (Node.bare "/Kernels/*" [.bare "/Kernels/*/<type>" []]).Extending :=
    Node.extending_bare (by decide) (by simpa using leaf _)
  have starred : (Node.bare "/*" [.bare "/*/*" [], .bare "/*/u" []]).Extending :=
    Node.extending_bare (by decide) (by simpa using ⟨leaf _, leaf _⟩)
  have kernels :
      (Node.bare "/Kernels" [.bare "/Kernels/*" [.bare "/Kernels/*/<type>" []]]).Extending :=
    Node.extending_bare (by decide) (by simpa using typed)
  simpa [overlapping] using ⟨starred, kernels⟩

theorem overlapping_find? :
    (∀ node ∈ overlapping, node.Extending) ∧
    bestMatch overlapping ["Kernels".toList, "u".toList] = some ⟨.bare "/*/u" [], 1, false⟩ ∧
    bestMatch overlapping ["Mesh".toList, "v".toList, "w".toList] = none := by
  refine ⟨overlapping_extending, ?_, ?_⟩
  · obtain ⟨selected, -⟩ := find?_eq_first_of_fewest ⟨overlapping, [], []⟩ 0 overlapping_extending
      ["Kernels".toList, "u".toList] (by decide)
    refine (selected _).mpr ⟨.bare "/*/u" [], ⟨by decide, ?_⟩, rfl⟩
    refine ⟨[.bare "/*" [.bare "/*/*" [], .bare "/*/u" []], .bare "/*/*" []], _, rfl, ?_, ?_⟩
    · decide
    · decide
  · obtain ⟨-, missing, -⟩ := find?_eq_first_of_fewest ⟨overlapping, [], []⟩ 0
      overlapping_extending ["Mesh".toList, "v".toList, "w".toList] (by decide)
    exact missing.mpr (by decide)

end Query

end Schema

end InputDeck
