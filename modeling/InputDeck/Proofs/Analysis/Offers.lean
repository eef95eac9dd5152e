import InputDeck.Analysis.Completion
import InputDeck.Proofs.Schema.Holding
import InputDeck.Proofs.Schema.Kept

/-!
The block names that are offered inside a tag.  They are read off the blocks that a walk from the
top comes to, which looks only below blocks that may hold others.  Each of them names a block that
the search finds, and each block that may hold others and that the search finds is offered, by its
name or by a star.
-/

namespace InputDeck

namespace Schema

section Agreement

theorem agrees_iff_forall₂_take {segments path : List Text}
    (long : path.length ≤ segments.length) :
    agrees segments path = true ↔ List.Forall₂ Agrees (segments.take path.length) path := by
  induction path generalizing segments with
  | nil => cases segments <;> simp [agrees]
  | cons part path ih =>
      cases segments with
      | nil => simp at long
      | cons segment segments => simp [agrees, Agrees, ih (Nat.le_of_succ_le_succ long)]

theorem typeSegment_not_mem {segments path : List Text} (agree : List.Forall₂ Agrees segments path)
    (plain : typeSegment ∉ path) : typeSegment ∉ segments := by
  induction agree with
  | nil => exact plain
  | cons first rest ih =>
      rw [List.mem_cons, not_or] at plain ⊢
      refine ⟨fun same => ?_, ih plain.2⟩
      rcases first with star | literal
      · exact absurd (same.trans star) (by decide)
      · exact plain.1 (same.trans literal)

end Agreement

section Walk

/-- Whether blocks below a block may be offered. -/
def Node.isOpen (node : Node) : Bool :=
  node.holdsBlocks && node.lastSegment != typeSegment

/-- The walk for what to offer below a path comes to a block from one at or above it. -/
inductive Node.ReachedFrom (path : List Text) (target : Node) : Node → Prop
  | here (along : target.liesAlong path = true) : ReachedFrom path target target
  | step {node child : Node} (along : node.liesAlong path = true) (isOpen : node.isOpen = true)
      (inside : child ∈ node.children) (further : ReachedFrom path target child) :
      ReachedFrom path target node

variable {path : List Text} {text : Text} {node target : Node} {above : List Text}

theorem mem_offersIn_iff {nodes : List Node} :
    text ∈ offersIn path nodes ↔ ∃ node ∈ nodes, text ∈ node.offers path := by
  induction nodes with
  | nil => simp [offersIn]
  | cons node rest ih => rw [offersIn, List.mem_append, List.exists_mem_cons_iff, ih]

theorem Node.offers_eq (path : List Text) (node : Node) :
    node.offers path =
      if node.liesAlong path then
        (if node.isOffered path then [node.path] else []) ++
          if node.isOpen then offersIn path node.children else []
      else [] := by
  cases node
  rfl

theorem Node.Layered.mem_offers_iff (layered : node.Layered above) :
    text ∈ node.offers path ↔
      ∃ target : Node, target.ReachedFrom path node ∧ target.isOffered path = true ∧
        target.path = text := by
  induction layered with
  | @intro above node step children ih =>
      rw [Node.offers_eq]
      constructor
      · intro member
        split at member
        · next along =>
            rcases List.mem_append.mp member with own | below
            · split at own
              · next offered =>
                  exact ⟨node, .here along, offered, (List.mem_singleton.mp own).symm⟩
              · cases own
            · split at below
              · next isOpen =>
                  obtain ⟨child, inside, found⟩ := mem_offersIn_iff.mp below
                  obtain ⟨target, reached, offered⟩ := (ih child inside).mp found
                  exact ⟨target, .step along isOpen inside reached, offered⟩
              · cases below
        · cases member
      · rintro ⟨target, reached, offered, rfl⟩
        cases reached with
        | here along =>
            rw [if_pos along, if_pos offered]
            exact List.mem_append_left _ (List.mem_singleton_self _)
        | step along isOpen inside further =>
            rw [if_pos along, if_pos isOpen]
            exact List.mem_append_right _ (mem_offersIn_iff.mpr
              ⟨_, inside, (ih _ inside).mpr ⟨target, further, offered, rfl⟩⟩)

theorem Node.ReachedFrom.along (reached : target.ReachedFrom path node) :
    target.liesAlong path = true := by
  induction reached with
  | here along => exact along
  | step along isOpen inside further ih => exact ih

theorem Node.ReachedFrom.mem_preorder (reached : target.ReachedFrom path node) :
    target ∈ node.preorder := by
  induction reached with
  | here along => exact target.mem_preorder
  | step along isOpen inside further ih => exact mem_preorder_iff.mpr (.inr ⟨_, inside, ih⟩)

theorem Node.Layered.reachedFrom (layered : node.Layered above) (holding : node.Holding)
    (member : target ∈ node.preorder) (along : target.liesAlong path = true)
    (plain : typeSegment ∉ target.segments.dropLast) : target.ReachedFrom path node := by
  induction layered with
  | @intro above node step children ih =>
      rcases mem_preorder_iff.mp member with rfl | ⟨child, inside, within⟩
      · exact .here along
      · have layer := children child inside
        obtain ⟨rest, split⟩ := child.segments_below layer.extending target within
        rw [layer.step, List.append_assoc] at split
        have nodeAlong : node.liesAlong path = true := by
          rw [liesAlong, ← split] at along
          exact agrees_of_append along
        have nodeAbove : node.lastSegment ∈ target.segments.dropLast := by
          rw [← split, List.singleton_append, List.dropLast_append_of_ne_nil (List.cons_ne_nil _ _)]
          exact List.mem_append_left _ (List.getLast_mem _)
        have literal : node.lastSegment ≠ typeSegment := by
          intro same
          exact plain (same ▸ nodeAbove)
        have holds := holding node node.mem_preorder (List.ne_nil_of_mem inside)
        have isOpen : node.isOpen = true := by
          rw [Node.isOpen, holds, Bool.true_and, bne_iff_ne]
          exact literal
        exact .step nodeAlong isOpen inside (ih child inside (holding.child inside) within)

theorem Node.Layered.exists_above {below : Node} {length : Nat} (layered : node.Layered above)
    (member : below ∈ node.preorder) (deep : above.length < length)
    (short : length ≤ below.segments.length) :
    ∃ upper ∈ node.preorder, upper.segments = below.segments.take length := by
  induction layered with
  | @intro above node step children ih =>
      have long := (Node.Layered.intro step children).length
      rcases mem_preorder_iff.mp member with rfl | ⟨child, inside, within⟩
      · exact ⟨below, below.mem_preorder, (List.take_of_length_le (by omega)).symm⟩
      · by_cases here : length = node.segments.length
        · have layer := children child inside
          obtain ⟨rest, split⟩ := child.segments_below layer.extending below within
          rw [layer.step, List.append_assoc] at split
          exact ⟨node, node.mem_preorder, by rw [← split, List.take_left' here.symm]⟩
        · obtain ⟨upper, upperMember, same⟩ := ih child inside within (by omega)
          exact ⟨upper, mem_preorder_iff.mpr (.inr ⟨child, inside, upperMember⟩), same⟩

end Walk

section Names

variable {nodes : List Node} {path : List Text} {text name part : Text} {found : Match}
variable (layered : ∀ node ∈ nodes, node.Layered [])

include layered

theorem found_of_offered (offered : text ∈ offersIn path nodes)
    (named : (Text.splitOn '/' text)[path.length]? = some name) (fits : Agrees name part) :
    bestMatch nodes (path ++ [part]) ≠ none := by
  obtain ⟨node, inside, own⟩ := mem_offersIn_iff.mp offered
  obtain ⟨target, reached, -, rfl⟩ := (layered node inside).mem_offers_iff.mp own
  change target.segments[path.length]? = some name at named
  obtain ⟨long, -⟩ := List.getElem?_eq_some_iff.mp named
  obtain ⟨upper, member, segments⟩ := (layered node inside).exists_above reached.mem_preorder
    (Nat.succ_pos path.length) long
  rw [List.take_add_one, named, Option.toList_some] at segments
  have stands : upper.StandsFor (path ++ [part]) := by
    rw [Node.StandsFor, segments]
    exact forall₂_concat_iff.mpr
      ⟨(agrees_iff_forall₂_take (Nat.le_of_lt long)).mp reached.along, fits⟩
  intro none
  exact (bestMatch_eq_none_iff (extending_of_layered layered)).mp none upper
    (mem_preorderIn_iff.mpr ⟨node, inside, member⟩) stands

theorem offered_of_found (holding : ∀ node ∈ nodes, node.Holding) (plain : typeSegment ∉ path)
    (other : part ≠ typeSegment)
    (best : bestMatch nodes (path ++ [part]) = some found)
    (holds : found.node.holdsBlocks = true) :
    found.node.path ∈ offersIn path nodes ∧
      found.node.segments[path.length]? = some found.node.lastSegment ∧
        Agrees found.node.lastSegment part := by
  obtain ⟨-, member, stands⟩ := bestMatch_stands layered best
  obtain ⟨standsAbove, fits⟩ := Node.standsFor_concat_iff.mp stands
  obtain ⟨root, inside, within⟩ := mem_preorderIn_iff.mp member
  have long : found.node.segments.dropLast.length = path.length := standsAbove.length_eq
  have split := found.node.segments_eq
  have longer : found.node.segments.length = path.length + 1 := by
    rw [split, List.length_append, long, List.length_singleton]
  have along : found.node.liesAlong path = true := by
    refine (agrees_iff_forall₂_take (by omega)).mpr ?_
    rw [split, List.take_left' long]
    exact standsAbove
  have literal : found.node.lastSegment ≠ typeSegment := by
    rintro same
    rcases fits with star | named
    · exact absurd (same.symm.trans star) (by decide)
    · exact other (named.symm.trans same)
  have offered : found.node.isOffered path = true := by
    have known : (found.node.lastSegment != typeSegment) = true := bne_iff_ne.mpr literal
    simp [Node.isOffered, holds, known, longer]
  refine ⟨mem_offersIn_iff.mpr ⟨root, inside, ?_⟩, ?_, fits⟩
  · refine (layered root inside).mem_offers_iff.mpr ⟨found.node, ?_, offered, rfl⟩
    exact (layered root inside).reachedFrom (holding root inside) within along
      (typeSegment_not_mem standsAbove plain)
  · rw [split, ← long, List.getElem?_concat_length]

end Names

end Schema

namespace Analysis

open Schema

def blockNames (completions : List Completion) : List Text :=
  (completions.filter (fun completion => completion.kind == .block)).map (·.display)

section Tags

variable {nodes : List Node} {table : MetadataTable} {path : List Text}

def offeredNames (nodes : List Node) (path : List Text) : List Text :=
  distinct (((distinct (offersIn path nodes)).filterMap (fun offer =>
    (Text.splitOn '/' offer)[path.length]?)).filter (fun name => !name.isEmpty))

theorem completeTag_eq {catalog : Catalog} (kept : catalog.Kept nodes table) (closed : Bool)
    (path : List Text) :
    ∃ closing make, ((completeTag closed path).run catalog).1 =
        closing ++ (offeredNames nodes path).map make ∧
      blockNames closing = [] ∧
      ∀ name, (make name).kind = .block ∧ (make name).display = name := by
  have offers := (Inquiry.kept_subBlockPaths path catalog kept).1
  refine ⟨_, _, by rw [offeredNames, ← offers]; rfl, ?_, fun name => ⟨rfl, rfl⟩⟩
  split <;> rfl

theorem blockNames_completeTag {catalog : Catalog} (kept : catalog.Kept nodes table)
    (closed : Bool) (path : List Text) :
    blockNames ((completeTag closed path).run catalog).1 = offeredNames nodes path := by
  obtain ⟨closing, make, offered, none, named⟩ := completeTag_eq kept closed path
  rw [blockNames] at none
  rw [offered, blockNames, List.filter_append, List.map_append, none, List.nil_append]
  simp [List.filter_map, Function.comp_def, named]

theorem mem_offeredNames_iff {name : Text} :
    name ∈ offeredNames nodes path ↔
      (∃ text ∈ offersIn path nodes, (Text.splitOn '/' text)[path.length]? = some name) ∧
        name ≠ [] := by
  rw [offeredNames, mem_distinct, List.mem_filter, List.mem_filterMap]
  simp [mem_distinct]

/-- Where a schema goes down one segment at a time and what has blocks below it holds blocks, as in
all that is read, the block names that are offered inside a tag are different, each of them names a
block, a star any block, and each block that may hold others is offered by its name or by a star. -/
theorem block_names_sound_and_complete (layered : ∀ node ∈ nodes, node.Layered [])
    (holding : ∀ node ∈ nodes, node.Holding) {first second : Catalog}
    (serving : ∀ catalog ∈ [first, second], catalog.Serves nodes table)
    (plain : typeSegment ∉ path) (closed : Bool) :
    (blockNames ((completeTag closed path).run first).1).Nodup ∧
      (∀ name ∈ blockNames ((completeTag closed path).run first).1, name ≠ wildcard →
        ((Inquiry.find? (path ++ [name])).run second).1 ≠ none) ∧
      (wildcard ∈ blockNames ((completeTag closed path).run first).1 → ∀ part,
        ((Inquiry.find? (path ++ [part])).run second).1 ≠ none) ∧
      ∀ part found, part ≠ [] → part ≠ typeSegment →
        ((Inquiry.find? (path ++ [part])).run second).1 = some found →
        found.node.holdsBlocks = true →
        part ∈ blockNames ((completeTag closed path).run first).1 ∨
          wildcard ∈ blockNames ((completeTag closed path).run first).1 := by
  have names := blockNames_completeTag ((serving first (by simp)).kept layered) closed path
  have finds := (serving second (by simp)).find?_eq layered
  simp only [names, finds, Ne, Option.map_eq_none_iff]
  refine ⟨nodup_distinct _, fun name offered _ => ?_, fun offered part => ?_, ?_⟩
  · obtain ⟨⟨text, isOffered, named⟩, -⟩ := mem_offeredNames_iff.mp offered
    exact found_of_offered layered isOffered named (.inr rfl)
  · obtain ⟨⟨text, isOffered, named⟩, -⟩ := mem_offeredNames_iff.mp offered
    exact found_of_offered layered isOffered named (.inl rfl)
  · intro part found given other same holds
    obtain ⟨block, best, rfl⟩ := Option.map_eq_some_iff.mp same
    obtain ⟨offered, named, fits⟩ := offered_of_found layered holding plain other best holds
    rcases fits with star | literal
    · rw [star] at named
      exact .inr (mem_offeredNames_iff.mpr ⟨⟨_, offered, named⟩, by decide⟩)
    · rw [literal] at named
      exact .inl (mem_offeredNames_iff.mpr ⟨⟨_, offered, named⟩, given⟩)

end Tags

theorem kernels_layered : ∀ node ∈ Query.kernels, node.Layered [] := by
  refine List.forall_mem_singleton.mpr (.intro (by decide) (List.forall_mem_cons.mpr ⟨?_, ?_⟩))
  · exact .intro (by decide) nofun
  · exact List.forall_mem_singleton.mpr (.intro (by decide) nofun)

theorem kernels_block_names :
    (∀ node ∈ Query.kernels, node.Holding) ∧
      (blockNames ((completeTag false ["Kernels".toList]).run
        { loaded := some { nodes := Query.kernels } }).1).Nodup ∧
      ∀ part, ((Inquiry.find? ["Kernels".toList, part]).run
        { loaded := some { nodes := Query.kernels } }).1 ≠ none := by
  let catalog : Catalog := { loaded := some { nodes := Query.kernels } }
  have holding : ∀ node ∈ Query.kernels, node.Holding := by
    unfold Node.Holding
    decide
  have serves : catalog.Serves Query.kernels [] := ⟨0, [], rfl⟩
  have serving : ∀ other ∈ [catalog, catalog], other.Serves Query.kernels [] := by simp [serves]
  have plain : typeSegment ∉ ["Kernels".toList] := by decide
  obtain ⟨different, -, any, -⟩ :=
    block_names_sound_and_complete kernels_layered holding serving plain false
  exact ⟨holding, different, any (by decide)⟩

end Analysis

end InputDeck
