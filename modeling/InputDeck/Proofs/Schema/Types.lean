import InputDeck.Proofs.Schema.Kept

/-!
The object types of a block.  A type is listed by going to the block above the types and looking
right below it, and its parameters are found by searching for its whole path.  Where blocks have
paths of their own the search comes to the listed type.  Where a star has blocks right below it, the
star can stand for the segment above the types, and what is below it is taken for types.
-/

namespace InputDeck

namespace Schema

section Search

variable {nodes : List Node} {path : List Text} {found typed : Match} {type : Text}

theorem bestMatch_ne_nil (best : bestMatch nodes path = some found) : path ≠ [] := by
  rintro rfl
  rw [bestMatch_nil] at best
  cases best

theorem typedPath?_eq_typesPath (starLast : Bool) (given : path ≠ []) (named : type ≠ []) :
    typedPath? path (some type) starLast = some (Loaded.typesPath path starLast ++ [type]) := by
  obtain ⟨first, rest, rfl⟩ := List.exists_cons_of_ne_nil named
  cases starLast with
  | false => simp [typedPath?, Loaded.typesPath]
  | true => simp [typedPath?, Loaded.typesPath, given]

variable (layered : ∀ node ∈ nodes, node.Layered [])

include layered

theorem path_ne_of_typed (best : bestMatch nodes path = some found)
    (typedBest : bestMatch nodes (Loaded.typesPath path found.starLast ++ [type]) = some typed)
    (apart : found.starLast = false ∨ typed.node.lastSegment ≠ wildcard) :
    typed.node.path ≠ found.node.path := by
  intro same
  have segments := Node.path_eq_iff.mp same
  obtain ⟨isOf, -, stands⟩ := bestMatch_stands layered best
  obtain ⟨-, -, typedStands⟩ := bestMatch_stands layered typedBest
  have long := (forall₂_agrees_iff.mp stands).1
  have typedLong := (forall₂_agrees_iff.mp typedStands).1
  cases star : found.starLast with
  | false =>
      rw [segments, long, star] at typedLong
      simp [Loaded.typesPath] at typedLong
  | true =>
      have literal := apart.resolve_left (by rw [star]; decide)
      rw [isOf] at star
      exact literal ((Node.lastSegment_congr segments).trans (eq_of_beq star))

theorem parametersOf_typed (best : bestMatch nodes path = some found) (named : type ≠ [])
    (typedBest : bestMatch nodes (Loaded.typesPath path found.starLast ++ [type]) = some typed)
    (apart : found.starLast = false ∨ typed.node.lastSegment ≠ wildcard) :
    parametersOf nodes path (some type) = typed.node.parameters ++ found.node.parameters := by
  have differs := path_ne_of_typed layered best typedBest apart
  have searched := typedPath?_eq_typesPath found.starLast (bestMatch_ne_nil best) named
  obtain ⟨first, rest, rfl⟩ := List.exists_cons_of_ne_nil named
  simp only [parametersOf, best, Option.some_or, searched, Option.bind_some, typedBest]
  exact if_pos (bne_iff_ne.mpr differs)

omit layered in
theorem parametersOf_untyped (best : bestMatch nodes path = some found)
    (none : type = [] ∨
      bestMatch nodes (Loaded.typesPath path found.starLast ++ [type]) = none) :
    parametersOf nodes path (some type) = found.node.parameters := by
  cases type with
  | nil => simp only [parametersOf, best, Option.some_or]
  | cons first rest =>
      have searched := typedPath?_eq_typesPath found.starLast (bestMatch_ne_nil best)
        (List.cons_ne_nil first rest)
      simp only [parametersOf, best, Option.some_or, searched, Option.bind_some,
        none.resolve_left (List.cons_ne_nil first rest)]

omit layered in
theorem mem_typesOf_iff {node : Node} :
    node ∈ typesOf nodes path ↔ ∃ found parent, bestMatch nodes path = some found ∧
      bestMatch nodes (Loaded.typesPath path found.starLast) = some parent ∧
        node ∈ parent.node.children ∧ node.isType = true := by
  rw [typesOf]
  cases bestMatch nodes path with
  | none => simp
  | some found =>
      cases above : bestMatch nodes (Loaded.typesPath path found.starLast) <;> simp [above]

end Search

section Listed

variable {nodes : List Node} {table : MetadataTable} {path : List Text} {parent : Match}

theorem bestMatch_child (layered : ∀ node ∈ nodes, node.Layered [])
    (distinct : ((preorderIn nodes).map Node.path).Nodup)
    (best : bestMatch nodes path = some parent) {child : Node}
    (inside : child ∈ parent.node.children) (literal : child.lastSegment ≠ wildcard) :
    bestMatch nodes (path ++ [child.lastSegment]) = some (.of child) := by
  obtain ⟨-, isBlock, -⟩ := bestMatch_stands layered best
  obtain ⟨before, after, split, more, least⟩ :=
    standing_around layered (bestMatch_ne_nil best) best child.lastSegment
  have fits : child ∈ parent.node.fitting child.lastSegment :=
    List.mem_filter.mpr ⟨inside, decide_eq_true (.inr rfl)⟩
  obtain ⟨front, behind, among, fresh⟩ := List.eq_append_cons_of_mem fits
  have stars : child.stars = parent.node.stars := by
    rw [child.stars_eq, starsAbove_child layered isBlock inside, if_neg literal, Nat.add_zero]
  -- Beside the child only stars fit its last segment, as no other block has its path.
  have siblings : ∀ other ∈ front ++ child :: behind, other ∈ parent.node.children ∧
      (other.lastSegment = wildcard ∨ other = child) := by
    intro other member
    obtain ⟨beside, agrees⟩ := List.mem_filter.mp (among ▸ member)
    refine ⟨beside, (of_decide_eq_true agrees).imp_right fun same => ?_⟩
    have path : other.path = child.path := by
      rw [Node.path_eq_iff, (layered_child layered isBlock other beside).step,
        (layered_child layered isBlock child inside).step, same]
    exact List.inj_on_of_nodup_map distinct (child_mem_preorderIn beside nodes isBlock)
      (child_mem_preorderIn inside nodes isBlock) path
  refine (bestMatch_eq_some_iff_leadsIn layered).mpr
    ⟨child, ⟨before ++ front, behind ++ after, ?_, ?_, ?_⟩, rfl⟩
  · rw [split, among]
    simp
  · intro other member
    rw [stars, other.stars_eq]
    rcases List.mem_append.mp member with earlier | sibling
    · exact Nat.lt_add_right _ (more other earlier)
    · obtain ⟨beside, star | rfl⟩ := siblings other (List.mem_append_left _ sibling)
      · rw [starsAbove_child layered isBlock beside, if_pos star]
        exact Nat.lt_succ_self _
      · exact absurd sibling fresh
  · intro other member
    rw [stars, other.stars_eq]
    rcases List.mem_append.mp member with sibling | later
    · obtain ⟨beside, -⟩ := siblings other
        (List.mem_append_right _ (List.mem_cons_of_mem child sibling))
      rw [starsAbove_child layered isBlock beside]
      exact Nat.le_add_right _ _
    · exact Nat.le_add_right_of_le (least other later)

/-- The parameters of a listed type, and then those of the block, are the parameters of the block
with this type. -/
theorem listed_type_adds_parameters (layered : ∀ node ∈ nodes, node.Layered [])
    (whole : ∀ node ∈ preorderIn nodes, [] ∉ node.segments)
    (distinct : ((preorderIn nodes).map Node.path).Nodup) {first second third : Catalog}
    (serving : ∀ catalog ∈ [first, second, third], catalog.Serves nodes table) {node : Node}
    (listed : node ∈ ((Inquiry.types path).run first).1) :
    ∃ found, ((Inquiry.find? path).run second).1 = some found ∧
      ((Inquiry.parameters path (some node.lastSegment)).run third).1 =
        node.parameters ++ found.node.parameters := by
  rw [(serving first (by simp)).types_eq layered] at listed
  rw [(serving second (by simp)).find?_eq layered, (serving third (by simp)).parameters_eq layered]
  obtain ⟨child, isType, rfl⟩ := List.mem_map.mp listed
  obtain ⟨found, parent, best, above, inside, types⟩ := mem_typesOf_iff.mp isType
  have literal : child.lastSegment ≠ wildcard := by
    simp only [Node.isType, Bool.and_eq_true, bne_iff_ne] at types
    exact types.1
  have typedBest := bestMatch_child layered distinct above inside literal
  have isFirst : firstNamed? nodes child.path = some child :=
    firstNamed?_of_bestMatch layered typedBest
  have named : child.lastSegment ≠ [] := by
    intro empty
    refine whole child (bestMatch_stands layered typedBest).2.1 ?_
    rw [← empty]
    exact List.getLast_mem _
  rw [mergedAs_of_first isFirst]
  refine ⟨_, by rw [best]; rfl, ?_⟩
  exact parametersOf_typed layered best named typedBest (.inr literal)

end Listed

def captured : List Node :=
  [{ name := "/A".toList, parameters := [{ name := ['a'] }], holdsBlocks := true, children := [
    { name := "/A/*".toList, holdsBlocks := true, children := [
      { name := "/A/*/x".toList, parameters := [{ name := ['p'] }] }] }] }]

def capturing : Catalog :=
  { loaded := some { nodes := captured } }

theorem captured_layered : ∀ node ∈ captured, node.Layered [] := by
  refine List.forall_mem_singleton.mpr (.intro (by decide) ?_)
  refine List.forall_mem_singleton.mpr (.intro (by decide) ?_)
  exact List.forall_mem_singleton.mpr (.intro (by decide) nofun)

theorem capturing_serves :
    ∀ catalog ∈ [capturing, capturing, capturing], catalog.Serves captured [] := by
  have serves : capturing.Serves captured [] := ⟨0, [], rfl⟩
  simp [serves]

theorem captured_listed_type :
    (∀ node ∈ preorderIn captured, [] ∉ node.segments) ∧
      ((preorderIn captured).map Node.path).Nodup ∧
      ∃ found, ((Inquiry.find? [['A']]).run capturing).1 = some found ∧
        ((Inquiry.parameters [['A']] (some ['x'])).run capturing).1 =
          { name := ['p'] } :: found.node.parameters := by
  have whole : ∀ node ∈ preorderIn captured, [] ∉ node.segments := by decide
  have distinct : ((preorderIn captured).map Node.path).Nodup := by decide
  let listed : Node := { name := "/A/*/x".toList, parameters := [{ name := ['p'] }] }
  have isListed : listed ∈ ((Inquiry.types [['A']]).run capturing).1 := List.mem_cons_self
  have last : listed.lastSegment = ['x'] := by decide
  obtain ⟨found, base, adds⟩ :=
    listed_type_adds_parameters captured_layered whole distinct capturing_serves isListed
  rw [last] at adds
  exact ⟨whole, distinct, found, base, adds⟩

section Captured

variable {nodes : List Node} {table : MetadataTable} {path : List Text}

/-- The path of a block is a path followed by the type segment itself and a type. -/
def Node.IsTypeOf (path : List Text) (type : Text) (node : Node) : Prop :=
  ∃ front last, node.segments = front ++ [typeSegment, last] ∧ List.Forall₂ Agrees front path ∧
    Agrees last type

theorem FirstOfFewest.mem {blocks : List Node} {node : Node}
    (first : FirstOfFewest path blocks node) : node ∈ blocks := by
  obtain ⟨before, after, rfl, -⟩ := first.placed
  simp

theorem forall₂_concat_right {segments path : List Text} {part : Text}
    (agree : List.Forall₂ Agrees segments (path ++ [part])) :
    ∃ front last, segments = front ++ [last] ∧ List.Forall₂ Agrees front path ∧
      Agrees last part := by
  rcases List.eq_nil_or_concat' segments with rfl | ⟨front, last, rfl⟩
  · have long := agree.length_eq
    simp at long
  · exact ⟨front, last, rfl, forall₂_concat_iff.mp agree⟩

theorem Node.StandsFor.star_of_not_isTypeOf {node : Node} {type : Text}
    (stands : node.StandsFor (path ++ [typeSegment] ++ [type]))
    (other : ¬ node.IsTypeOf path type) : node.segments[path.length]? = some wildcard := by
  obtain ⟨above, last, split, standsAbove, agreesLast⟩ := forall₂_concat_right stands
  obtain ⟨front, segment, rfl, standsFront, agrees⟩ := forall₂_concat_right standsAbove
  rw [List.append_assoc] at split
  rcases agrees with rfl | rfl
  · rw [split, ← standsFront.length_eq, List.getElem?_append_right (Nat.le_refl _), Nat.sub_self]
    rfl
  · exact absurd ⟨front, last, split, standsFront, agreesLast⟩ other

variable (layered : ∀ node ∈ nodes, node.Layered [])

include layered

theorem mergedAs_child (table : MetadataTable) {parent : Match}
    (best : bestMatch nodes path = some parent) {child : Node}
    (inside : child ∈ parent.node.children) :
    ∃ first ∈ parent.node.children, first.path = child.path ∧
      mergedAs nodes table child = first.described table := by
  have named := firstNamed?_child layered (bestMatch_ne_nil best) best inside
  have there : (parent.node.children.find? (fun other => other.path == child.path)).isSome = true :=
    List.find?_isSome.mpr ⟨child, inside, beq_self_eq_true child.path⟩
  obtain ⟨first, isFirst⟩ := Option.isSome_iff_exists.mp there
  refine ⟨first, List.mem_of_find?_eq_some isFirst, ?_, ?_⟩
  · exact eq_of_beq (List.find?_some (p := fun other : Node => other.path == child.path) isFirst)
  · rw [mergedAs, named, isFirst, Option.getD_some]

theorem bestMatch_of_iff {node : Node} :
    bestMatch nodes path = some (.of node) ↔ FirstOfFewest path (preorderIn nodes) node := by
  rw [bestMatch_eq_some_iff (extending_of_layered layered)]
  constructor
  · rintro ⟨other, first, same⟩
    obtain rfl : other = node := congrArg Match.node same
    exact first
  · intro first
    exact ⟨node, first, rfl⟩

theorem typesOf_below_typeSegment_iff {found : Match} (best : bestMatch nodes path = some found)
    (plain : found.starLast = false) :
    (∀ node ∈ (typesOf nodes path).map (mergedAs nodes table),
      ∃ parent ∈ preorderIn nodes, parent.lastSegment = typeSegment ∧
        ∃ child ∈ parent.children, node = child.described table) ↔
    ∀ parent, FirstOfFewest (path ++ [typeSegment]) (preorderIn nodes) parent →
      parent.lastSegment = wildcard → ∀ child ∈ parent.children, child.isType = false := by
  have above : Loaded.typesPath path found.starLast = path ++ [typeSegment] := by
    rw [plain]
    rfl
  constructor
  · intro below parent first star child inside
    rw [Bool.eq_false_iff]
    intro isType
    have parentBest := (bestMatch_of_iff layered).mpr first
    have listed : child ∈ typesOf nodes path :=
      mem_typesOf_iff.mpr ⟨found, .of parent, best, above ▸ parentBest, inside, isType⟩
    obtain ⟨upper, isBlock, segment, other, otherInside, same⟩ :=
      below _ (List.mem_map_of_mem listed)
    obtain ⟨named, -, path, described⟩ := mergedAs_child layered table parentBest inside
    rw [described] at same
    have paths : other.path = child.path := (congrArg Node.path same).symm.trans path
    have member := (bestMatch_stands layered parentBest).2.1
    have segments := Node.path_eq_iff.mp paths
    rw [(layered_child layered isBlock other otherInside).step,
      (layered_child layered member child inside).step] at segments
    have uppers := (List.append_inj' segments rfl).1
    have last : upper.lastSegment = parent.lastSegment := Node.lastSegment_congr uppers
    rw [segment, star] at last
    exact absurd last (by decide)
  · intro uncaptured node listed
    obtain ⟨child, isType, rfl⟩ := List.mem_map.mp listed
    obtain ⟨found', parent, best', parentBest, inside, types⟩ := mem_typesOf_iff.mp isType
    obtain rfl := Option.some.inj (best.symm.trans best')
    rw [above] at parentBest
    obtain ⟨isOf, member, stands⟩ := bestMatch_stands layered parentBest
    obtain ⟨first, isInside, -, described⟩ := mergedAs_child layered table parentBest inside
    refine ⟨parent.node, member, ?_, first, isInside, described⟩
    rw [isOf] at parentBest
    have first := (bestMatch_of_iff layered).mp parentBest
    rcases (Node.standsFor_concat_iff.mp stands).2 with star | literal
    · rw [uncaptured parent.node first star child inside] at types
      cases types
    · exact literal

theorem parametersOf_eq_iff {found : Match} {type : Text} (best : bestMatch nodes path = some found)
    (plain : found.starLast = false) :
    parametersOf nodes path (some type) = found.node.parameters ↔
      type = [] ∨ ∀ typed,
        FirstOfFewest (path ++ [typeSegment] ++ [type]) (preorderIn nodes) typed →
          typed.parameters = [] := by
  have above : Loaded.typesPath path found.starLast = path ++ [typeSegment] := by
    rw [plain]
    rfl
  by_cases empty : type = []
  · exact iff_of_true (parametersOf_untyped best (.inl empty)) (.inl empty)
  · cases typedBest : bestMatch nodes (path ++ [typeSegment] ++ [type]) with
    | none =>
        have nothing := (bestMatch_eq_none_iff (extending_of_layered layered)).mp typedBest
        rw [parametersOf_untyped best (.inr (above.symm ▸ typedBest))]
        refine iff_of_true rfl (.inr fun typed first => ?_)
        exact absurd first.standsFor (nothing typed first.mem)
    | some typed =>
        rw [parametersOf_typed layered best empty (above.symm ▸ typedBest) (.inl plain),
          List.append_left_eq_self, or_iff_right empty]
        rw [(bestMatch_stands layered typedBest).1] at typedBest
        have first := (bestMatch_of_iff layered).mp typedBest
        constructor
        · intro bare other otherFirst
          have again := typedBest.symm.trans ((bestMatch_of_iff layered).mpr otherFirst)
          have same : typed.node = other := congrArg Match.node (Option.some.inj again)
          rw [← same]
          exact bare
        · intro bare
          exact bare typed.node first

/-- Where the block of a path is not found by a star at the end, its listed types are right below a
type segment just if no star with types right below it is taken for the type segment.  With a type
the parameters are those of the block just if the block that is taken for the type has none, and if
no block is this type, then the one that is taken for it has a star for the type segment. -/
theorem types_uncaptured_iff {first second third : Catalog}
    (serving : ∀ catalog ∈ [first, second, third], catalog.Serves nodes table) {found : Match}
    (base : ((Inquiry.find? path).run first).1 = some found) (plain : found.starLast = false) :
    ((∀ node ∈ ((Inquiry.types path).run second).1,
        ∃ parent ∈ preorderIn nodes, parent.lastSegment = typeSegment ∧
          ∃ child ∈ parent.children, node = child.described table) ↔
      ∀ parent, FirstOfFewest (path ++ [typeSegment]) (preorderIn nodes) parent →
        parent.lastSegment = wildcard → ∀ child ∈ parent.children, child.isType = false) ∧
    ∀ type,
      (((Inquiry.parameters path (some type)).run third).1 = found.node.parameters ↔
        type = [] ∨ ∀ typed,
          FirstOfFewest (path ++ [typeSegment] ++ [type]) (preorderIn nodes) typed →
            typed.parameters = []) ∧
      ((∀ node ∈ preorderIn nodes, ¬ node.IsTypeOf path type) → ∀ typed,
        FirstOfFewest (path ++ [typeSegment] ++ [type]) (preorderIn nodes) typed →
          typed.segments[path.length]? = some wildcard) := by
  rw [(serving first (by simp)).find?_eq layered] at base
  rw [(serving second (by simp)).types_eq layered]
  obtain ⟨block, best, rfl⟩ := Option.map_eq_some_iff.mp base
  refine ⟨typesOf_below_typeSegment_iff layered best plain, fun type => ⟨?_, ?_⟩⟩
  · rw [(serving third (by simp)).parameters_eq layered]
    change _ = block.node.parameters ↔ _
    exact parametersOf_eq_iff layered best plain
  · intro unknown typed isFirst
    exact isFirst.standsFor.star_of_not_isTypeOf (unknown typed isFirst.mem)

end Captured

theorem captured_types :
    ∃ found, ((Inquiry.find? [['A']]).run capturing).1 = some found ∧ found.starLast = false ∧
      (∀ node ∈ preorderIn captured, ¬ node.IsTypeOf [['A']] ['x']) ∧
      (¬ ∀ node ∈ ((Inquiry.types [['A']]).run capturing).1,
        ∃ parent ∈ preorderIn captured, parent.lastSegment = typeSegment ∧
          ∃ child ∈ parent.children, node = child.described []) ∧
      ((Inquiry.parameters [['A']] (some ['x'])).run capturing).1 ≠ found.node.parameters := by
  let type : Node := { name := "/A/*/x".toList, parameters := [{ name := ['p'] }] }
  let star : Node := { name := "/A/*".toList, holdsBlocks := true, children := [type] }
  let block : Node :=
    { name := "/A".toList, parameters := [{ name := ['a'] }], holdsBlocks := true,
      children := [star] }
  have starFirst : FirstOfFewest [['A'], typeSegment] (preorderIn captured) star :=
    ⟨by decide, [block], [type], rfl, by decide, by decide⟩
  have typeFirst : FirstOfFewest [['A'], typeSegment, ['x']] (preorderIn captured) type :=
    ⟨by decide, [block, star], [], rfl, by decide, nofun⟩
  have unknown : ∀ node ∈ preorderIn captured, ¬ node.IsTypeOf [['A']] ['x'] := by
    have absent : ∀ node ∈ preorderIn captured, typeSegment ∉ node.segments := by decide
    rintro node member ⟨front, last, split, -⟩
    exact absent node member (by rw [split]; simp)
  have base : ((Inquiry.find? [['A']]).run capturing).1 = some ⟨block, 0, false⟩ := rfl
  obtain ⟨types, parameters⟩ :=
    types_uncaptured_iff captured_layered capturing_serves base rfl
  refine ⟨_, base, rfl, unknown, fun below => ?_, fun same => ?_⟩
  · have none := types.mp below star starFirst rfl type List.mem_cons_self
    exact absurd none (by decide)
  · rcases (parameters ['x']).1.mp same with empty | bare
    · cases empty
    · exact absurd (bare type typeFirst) (by decide)

end Schema

end InputDeck
