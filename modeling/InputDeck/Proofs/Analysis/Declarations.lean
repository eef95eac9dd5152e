import InputDeck.Proofs.Analysis.Expressions
import InputDeck.Proofs.Analysis.Uses
import InputDeck.Proofs.Outline.Spans
import InputDeck.Proofs.Text.Runs

/-!
The names that a document defines.  Of all sub-blocks that declare a name, the one that counts is
the first that states it outright, or else the first that uses it in an expression, wherever in the
document the others stand.
-/

namespace InputDeck

namespace Analysis

open Outline Schema

/-- A word of the value of a parameter; of several parameters of one name the first counts. -/
def HasWord (block : Block) (parameter word : Text) : Prop :=
  ∃ others item rest value, block.parameters = others ++ item :: rest ∧
    (∀ other ∈ others, other.name ≠ parameter) ∧ item.name = parameter ∧
    item.value = some value ∧
    Text.IsRun (fun c => !Text.isBlank c) word (Text.unquote value.text)

/-- A sub-block of a top-level block states a name outright. -/
inductive States (top : Text) (block : Block) : Text → Prop
  | own (named : top ∈ ["Variables", "AuxVariables", "Functions", "Postprocessors", "UserObjects",
      "VectorPostprocessors"].map String.toList) : States top block block.name
  | word {parameter name : Text} (material : top = "Materials".toList)
      (naming : parameter ∈ ["f_name", "function_name", "prop_names"].map String.toList)
      (word : HasWord block parameter name) : States top block name
  | unnamed (material : top = "Materials".toList)
      (wordless : ∀ parameter ∈ ["f_name", "function_name", "prop_names"].map String.toList,
        ∀ name, ¬ HasWord block parameter name) : States top block block.name

/-- A sub-block of a top-level block uses a name in its expression. -/
structure Expresses (top : Text) (block : Block) (name : Text) : Prop where
  material : top = "Materials".toList
  identifier : Identifier name
  used : ∃ entry, HasWord block "material_property_names".toList entry ∧ UsedIn name entry

/-- The start of the first of the sub-blocks in question of top-level blocks of a name. -/
def StartsFirst (outline : List TopBlock) (top : Text) (question : Block → Prop)
    (position : Position) : Prop :=
  ∃ block, Holds outline [top, block.name] block ∧ question block ∧ position = block.start ∧
    ∀ other, Holds outline [top, other.name] other → question other → position ≤ other.start

/-! What a sub-block declares. -/

section Declarations

variable {top name : Text} {block : Block}

theorem hasWord_iff {parameter word : Text} : HasWord block parameter word ↔
    ∃ value, (block.parameter? parameter).bind Parameter.valueText? = some value ∧
      word ∈ Text.unquotedWords value := by
  have run (text : Text) : word ∈ Text.unquotedWords text ↔
      Text.IsRun (fun c => !Text.isBlank c) word (Text.unquote text) := Text.mem_pieces_iff
  simp only [run, Option.bind_eq_some_iff, Block.parameter?, findParameter?,
    List.find?_eq_some_iff_append]
  constructor
  · rintro ⟨others, item, rest, value, whole, earlier, named, given, among⟩
    refine ⟨value.text, ⟨item, ⟨beq_iff_eq.mpr named, others, rest, whole, ?_⟩, ?_⟩, among⟩
    · exact fun other member => by simpa using earlier other member
    · rw [Parameter.valueText?, given, Option.map_some]
  · rintro ⟨text, ⟨item, ⟨named, others, rest, whole, earlier⟩, given⟩, among⟩
    obtain ⟨value, stated, rfl⟩ := Option.map_eq_some_iff.mp given
    refine ⟨others, item, rest, value, whole, ?_, beq_iff_eq.mp named, stated, among⟩
    exact fun other member => by simpa using earlier other member

theorem mem_words_iff {parameter : Text} :
    (name ∈ match (block.parameter? parameter).bind Parameter.valueText? with
      | some value => Text.unquotedWords value
      | none => []) ↔ HasWord block parameter name := by
  rw [hasWord_iff]
  cases (block.parameter? parameter).bind Parameter.valueText? with
  | none => simp
  | some value => simp

theorem mem_statedProperties :
    name ∈ statedProperties block ↔ States materials block name := by
  have stated : ∀ word, (word ∈ propertyParameters.flatMap (fun parameter =>
      match (block.parameter? parameter).bind Parameter.valueText? with
      | some value => Text.unquotedWords value
      | none => [])) ↔ ∃ parameter ∈ propertyParameters, HasWord block parameter word := by
    intro word
    simp only [List.mem_flatMap, mem_words_iff]
  rw [statedProperties]
  generalize List.flatMap _ propertyParameters = words at stated ⊢
  by_cases empty : words = []
  · have wordless : ∀ parameter ∈ propertyParameters, ∀ word, ¬ HasWord block parameter word := by
      intro parameter naming word has
      have member := (stated word).mpr ⟨parameter, naming, has⟩
      rw [empty] at member
      cases member
    rw [empty, List.isEmpty_nil, if_pos rfl, List.mem_singleton]
    constructor
    · rintro rfl
      exact .unnamed rfl wordless
    · intro states
      cases states with
      | own | unnamed => rfl
      | word _ naming has => exact absurd has (wordless _ naming name)
  · rw [if_neg (by rwa [List.isEmpty_iff]), stated]
    constructor
    · rintro ⟨parameter, naming, has⟩
      exact .word rfl naming has
    · intro states
      cases states with
      | own named => exact absurd named (by decide)
      | word _ naming has => exact ⟨_, naming, has⟩
      | unnamed _ wordless =>
          obtain ⟨word, member⟩ := List.exists_mem_of_ne_nil words empty
          obtain ⟨parameter, naming, has⟩ := (stated word).mp member
          exact absurd has (wordless parameter naming word)

theorem expresses_iff : Expresses materials block name ↔
    ∃ value, (block.parameter? expressionParameter).bind Parameter.valueText? = some value ∧
      name ∈ usedProperties value := by
  have uses {value entry : Text} (member : entry ∈ Text.unquotedWords value) :
      usedProperty? entry = some name ↔ Identifier name ∧ UsedIn name entry :=
    usedProperty?_eq_some_iff fun c inside => by
      simpa using (Text.of_mem_pieces member).2 c inside
  simp only [usedProperties, mem_distinct, List.mem_filterMap]
  constructor
  · rintro ⟨-, identifier, entry, has, used⟩
    obtain ⟨value, given, member⟩ := hasWord_iff.mp has
    exact ⟨value, given, entry, member, (uses member).mpr ⟨identifier, used⟩⟩
  · rintro ⟨value, given, entry, member, found⟩
    obtain ⟨identifier, used⟩ := (uses member).mp found
    exact ⟨rfl, identifier, entry, hasWord_iff.mpr ⟨value, given, member⟩, used⟩

theorem mem_declarations_iff {declaration : Declaration} :
    declaration ∈ declarations top block ↔ declaration.scope = top ∧ declaration.block = block ∧
      if declaration.explicit then States top block declaration.name
      else Expresses top block declaration.name := by
  obtain ⟨scope, name, inside, explicit⟩ := declaration
  rw [declarations]
  by_cases named : top ∈ namedBlocks
  · have other : top ≠ materials := by
      rintro rfl
      exact absurd named (by decide)
    have states : States top block name ↔ name = block.name := by
      constructor
      · intro states
        cases states with
        | own | unnamed => rfl
        | word material => exact absurd material other
      · rintro rfl
        exact .own named
    have unused : ¬ Expresses top block name := fun expresses => other expresses.material
    rw [if_pos (List.contains_iff_mem.mpr named), List.mem_singleton]
    cases explicit <;> simp [unused, states, and_comm]
  · rw [if_neg (by rwa [List.contains_iff_mem])]
    by_cases material : top = materials
    · subst material
      rw [beq_self_eq_true, if_pos rfl, List.mem_append]
      simp only [List.mem_map, mem_statedProperties, expresses_iff, Declaration.mk.injEq]
      cases (block.parameter? expressionParameter).bind Parameter.valueText? <;>
        cases explicit <;> grind
    · rw [if_neg (by simpa using material)]
      have states : ¬ States top block name := by
        intro states
        cases states with
        | own inside => exact named inside
        | word same | unnamed same => exact material same
      have unused : ¬ Expresses top block name := fun expresses => material expresses.material
      cases explicit <;> simp [unused, states]

end Declarations

/-! The declarations of an outline, in the order of the document. -/

section Order

variable {outline : List TopBlock}

def declared (outline : List TopBlock) : List Declaration :=
  outline.flatMap (fun top => top.children.flatMap (declarations top.name))

theorem mem_declared_iff {declaration : Declaration} :
    declaration ∈ declared outline ↔
      Holds outline [declaration.scope, declaration.block.name] declaration.block ∧
        if declaration.explicit then
          States declaration.scope declaration.block declaration.name
        else Expresses declaration.scope declaration.block declaration.name := by
  obtain ⟨scope, name, block, explicit⟩ := declaration
  simp only [declared, List.mem_flatMap, mem_declarations_iff]
  constructor
  · rintro ⟨top, member, child, inside, rfl, rfl, declares⟩
    exact ⟨.sub member inside, declares⟩
  · rintro ⟨holds, declares⟩
    generalize path : [scope, block.name] = names at holds
    cases holds with
    | top => cases path
    | sub member inside =>
        obtain ⟨rfl, -⟩ := List.cons.inj path
        exact ⟨_, member, _, inside, rfl, rfl, declares⟩

theorem pairwise_declared {last : Position} {state : State} (spanned : state.Spanned last) :
    (declared state.closed).Pairwise
      (fun first second => first.block.start ≤ second.block.start) := by
  have within : ∀ top child (declaration : Declaration), declaration ∈ declarations top child →
      declaration.block = child := fun _ _ _ member => (mem_declarations_iff.mp member).2.1
  refine List.pairwise_flatMap.mpr ⟨fun top member => ?_, ?_⟩
  · have children := (spanned.closed top member).1.children
    refine List.pairwise_flatMap.mpr ⟨fun child inside => ?_, ?_⟩
    · refine List.pairwise_of_forall_mem_list fun first one second other => ?_
      rw [within _ _ _ one, within _ _ _ other]
      exact Position.le_refl child.start
    · refine (spanned.closed top member).1.siblings.imp_of_mem ?_
      intro child next inside _ behind first one second other
      rw [within _ _ _ one, within _ _ _ other]
      exact Position.le_trans (children child inside).1.ordered (Position.le_of_lt behind)
  · refine spanned.siblings.imp_of_mem ?_
    intro top next member later behind first one second other
    obtain ⟨child, inside, own⟩ := List.mem_flatMap.mp one
    obtain ⟨following, among, theirs⟩ := List.mem_flatMap.mp other
    obtain ⟨childSpanned, -, before⟩ := (spanned.closed top member).1.children child inside
    obtain ⟨-, after, -⟩ := (spanned.closed next later).1.children following among
    rw [within _ _ _ own, within _ _ _ theirs]
    exact Position.le_trans (Position.le_trans childSpanned.ordered before)
      (Position.le_trans (Position.le_of_lt behind) after)

theorem least_of_find? {all : List Declaration} {question : Declaration → Bool}
    {found : Declaration}
    (ordered : all.Pairwise (fun first second => first.block.start ≤ second.block.start))
    (first : all.find? question = some found) :
    ∀ other ∈ all, question other = true → found.block.start ≤ other.block.start := by
  obtain ⟨-, before, after, rfl, fails⟩ := List.find?_eq_some_iff_append.mp first
  intro other member asked
  rcases List.mem_append.mp member with earlier | later
  · have failed := fails other earlier
    rw [asked] at failed
    cases failed
  · rcases List.mem_cons.mp later with rfl | behind
    · exact Position.le_refl _
    · exact List.rel_of_pairwise_cons (List.pairwise_append.mp ordered).2.1 behind

end Order

/-! The first declaration of each name. -/

section First

def Declaration.isOf (scope name : Text) (declaration : Declaration) : Bool :=
  declaration.scope == scope && declaration.name == name

theorem Declaration.isOf_iff {scope name : Text} {declaration : Declaration} :
    declaration.isOf scope name = true ↔ declaration.scope = scope ∧ declaration.name = name := by
  simp [isOf]

theorem mem_firstDeclarations_iff {all : List Declaration} {declaration : Declaration} :
    declaration ∈ firstDeclarations all ↔
      all.find? (Declaration.isOf declaration.scope declaration.name) = some declaration := by
  induction all with
  | nil => simp [firstDeclarations]
  | cons first rest ih =>
      rw [firstDeclarations, List.mem_cons, List.mem_filter, ih]
      by_cases same : first.isOf declaration.scope declaration.name = true
      · obtain ⟨scope, name⟩ := Declaration.isOf_iff.mp same
        rw [List.find?_cons_of_pos same, scope, name]
        simp [eq_comm]
      · have other : declaration ≠ first := by
          rintro rfl
          exact same (Declaration.isOf_iff.mpr ⟨rfl, rfl⟩)
        have apart : declaration.isOf first.scope first.name = false := by
          rw [Bool.eq_false_iff, Ne, Declaration.isOf_iff]
          rintro ⟨scope, name⟩
          exact same (Declaration.isOf_iff.mpr ⟨scope.symm, name.symm⟩)
        have kept : (!(declaration.scope == first.scope &&
            declaration.name == first.name)) = true := congrArg (!·) apart
        rw [List.find?_cons_of_neg same, kept, or_iff_right other, and_iff_left rfl]

theorem pairwise_firstDeclarations (all : List Declaration) :
    (firstDeclarations all).Pairwise (fun first second =>
      (first.scope, first.name) ≠ (second.scope, second.name)) := by
  induction all with
  | nil => exact List.Pairwise.nil
  | cons first rest ih =>
      rw [firstDeclarations, List.pairwise_cons]
      refine ⟨fun other member => ?_, ih.filter _⟩
      have differs := (List.mem_filter.mp member).2
      intro same
      obtain ⟨scope, name⟩ := Prod.mk.inj same
      rw [scope, name, beq_self_eq_true, beq_self_eq_true] at differs
      cases differs

theorem exists_mem_firstDeclarations {all : List Declaration} {declaration : Declaration}
    (member : declaration ∈ all) :
    ∃ first ∈ firstDeclarations all,
      first.scope = declaration.scope ∧ first.name = declaration.name := by
  have own : declaration.isOf declaration.scope declaration.name = true :=
    Declaration.isOf_iff.mpr ⟨rfl, rfl⟩
  obtain ⟨first, found⟩ := Option.isSome_iff_exists.mp
    (List.find?_isSome.mpr ⟨declaration, member, own⟩)
  obtain ⟨scope, name⟩ := Declaration.isOf_iff.mp (List.find?_some found)
  refine ⟨first, mem_firstDeclarations_iff.mpr ?_, scope, name⟩
  rw [scope, name, found]

theorem allDeclarations_eq (outline : List TopBlock) :
    allDeclarations outline = (declared outline).filter (·.explicit == true) ++
      (declared outline).filter (·.explicit == false) := by
  simp [allDeclarations, declared]

theorem mem_allDeclarations {outline : List TopBlock} {declaration : Declaration} :
    declaration ∈ allDeclarations outline ↔ declaration ∈ declared outline := by
  rw [allDeclarations_eq, List.mem_append, List.mem_filter, List.mem_filter]
  cases declaration.explicit <;> simp

variable {doc : Document} {scope name : Text} {explicit : Bool} {declaration : Declaration}

theorem mem_kind_iff {block : Block} :
    ⟨scope, name, block, explicit⟩ ∈ (declared doc.outline).filter (·.explicit == explicit) ↔
      Holds doc.outline [scope, block.name] block ∧
        if explicit then States scope block name else Expresses scope block name := by
  rw [List.mem_filter, mem_declared_iff, and_iff_left (beq_self_eq_true explicit)]

theorem startsFirst_of_find? (found : ((declared doc.outline).filter (·.explicit == explicit)).find?
      (Declaration.isOf scope name) = some declaration) :
    StartsFirst doc.outline scope
      (fun block => if explicit then States scope block name else Expresses scope block name)
      declaration.block.start := by
  obtain ⟨last, spanned⟩ := spanned_read doc.rows
  have ordered := (pairwise_declared spanned).filter (·.explicit == explicit)
  have least := least_of_find? ordered found
  have member := List.mem_of_find?_eq_some found
  obtain rfl := eq_of_beq (List.mem_filter.mp member).2
  obtain ⟨rfl, rfl⟩ := Declaration.isOf_iff.mp (List.find?_some found)
  obtain ⟨holds, declares⟩ := mem_kind_iff.mp member
  refine ⟨declaration.block, holds, declares, rfl, fun other otherHolds otherDeclares => ?_⟩
  exact least _ (mem_kind_iff.mpr ⟨otherHolds, otherDeclares⟩) (Declaration.isOf_iff.mpr ⟨rfl, rfl⟩)

theorem not_declares_of_find? (absent : ((declared doc.outline).filter
      (·.explicit == explicit)).find? (Declaration.isOf scope name) = none) :
    ∀ block, Holds doc.outline [scope, block.name] block →
      ¬ if explicit then States scope block name else Expresses scope block name := by
  intro block holds declares
  exact List.find?_eq_none.mp absent _ (mem_kind_iff.mpr ⟨holds, declares⟩)
    (Declaration.isOf_iff.mpr ⟨rfl, rfl⟩)

theorem startsFirst_of_mem_firstDeclarations
    (first : declaration ∈ firstDeclarations (allDeclarations doc.outline)) :
    StartsFirst doc.outline declaration.scope
        (States declaration.scope · declaration.name) declaration.block.start ∨
      (∀ block, Holds doc.outline [declaration.scope, block.name] block →
        ¬ States declaration.scope block declaration.name) ∧
      StartsFirst doc.outline declaration.scope
        (Expresses declaration.scope · declaration.name) declaration.block.start := by
  have found := mem_firstDeclarations_iff.mp first
  rw [allDeclarations_eq, List.find?_append] at found
  rcases Option.or_eq_some_iff.mp found with stated | ⟨unstated, used⟩
  · exact .inl (startsFirst_of_find? stated)
  · exact .inr ⟨not_declares_of_find? unstated, startsFirst_of_find? used⟩

end First

/-- Each name that sub-blocks declare has one entry, under its key, and no other name has one.  The
entry stands at the first sub-block of the document that states the name outright or, where none
does, at the first that uses it in an expression. -/
theorem references_keep_first (doc : Document) (catalog : Catalog) :
    (((references doc).run catalog).1.map (·.definition.key)).Nodup ∧
    (∀ key, key ∈ ((references doc).run catalog).1.map (·.definition.key) ↔
      ∃ top block name, Holds doc.outline [top, block.name] block ∧
        (States top block name ∨ Expresses top block name) ∧ key = top ++ '/' :: name) ∧
    ∀ entry ∈ ((references doc).run catalog).1, ∀ top name, '/' ∉ top →
      entry.definition.key = top ++ '/' :: name →
        StartsFirst doc.outline top (States top · name) entry.definition.position ∨
        (∀ block, Holds doc.outline [top, block.name] block → ¬ States top block name) ∧
          StartsFirst doc.outline top (Expresses top · name) entry.definition.position := by
  let firsts := firstDeclarations (allDeclarations doc.outline)
  have listed : ((references doc).run catalog).1.map (fun entry =>
      (entry.definition.scope, entry.definition.name, entry.definition.position)) =
      firsts.map (fun declaration =>
        (declaration.scope, declaration.name, declaration.block.start)) := by
    rw [← outline_defineAll firsts catalog]
    exact List.map_map
  have keys : ((references doc).run catalog).1.map (·.definition.key) =
      firsts.map (fun declaration => declaration.scope ++ '/' :: declaration.name) := by
    have joined := congrArg (List.map (fun placed : Text × Text × Position =>
      placed.1 ++ '/' :: placed.2.1)) listed
    rwa [List.map_map, List.map_map] at joined
  have free : ∀ declaration ∈ firsts, '/' ∉ declaration.scope := fun declaration member =>
    slash_not_mem_allNamespaces _ (scope_mem_allNamespaces (mem_of_mem_firstDeclarations member))
  refine ⟨?_, fun key => ?_, fun entry member top name whole key => ?_⟩
  · rw [keys, List.Nodup, List.pairwise_map]
    refine (pairwise_firstDeclarations _).imp_of_mem ?_
    intro one other inside among differs same
    obtain ⟨scope, name⟩ := (key_inj (free one inside) (free other among)).mp same
    exact differs (by rw [scope, name])
  · rw [keys, List.mem_map]
    constructor
    · rintro ⟨declaration, inside, rfl⟩
      obtain ⟨holds, declares⟩ := mem_declared_iff.mp
        (mem_allDeclarations.mp (mem_of_mem_firstDeclarations inside))
      refine ⟨_, _, _, holds, ?_, rfl⟩
      split at declares
      · exact .inl declares
      · exact .inr declares
    · rintro ⟨top, block, name, holds, declares, rfl⟩
      have member : ∃ explicit, (⟨top, name, block, explicit⟩ : Declaration) ∈
          allDeclarations doc.outline := by
        rcases declares with states | expresses
        · exact ⟨true, mem_allDeclarations.mpr (mem_declared_iff.mpr ⟨holds, states⟩)⟩
        · exact ⟨false, mem_allDeclarations.mpr (mem_declared_iff.mpr ⟨holds, expresses⟩)⟩
      obtain ⟨explicit, inside⟩ := member
      obtain ⟨first, among, scope, same⟩ := exists_mem_firstDeclarations inside
      exact ⟨first, among, by rw [scope, same]⟩
  · have placed := List.mem_map_of_mem (f := fun entry : Reference =>
      (entry.definition.scope, entry.definition.name, entry.definition.position)) member
    rw [listed] at placed
    obtain ⟨declaration, first, same⟩ := List.mem_map.mp placed
    obtain ⟨scope, rest⟩ := Prod.mk.inj same
    obtain ⟨named, position⟩ := Prod.mk.inj rest
    rw [Definition.key, ← scope, ← named] at key
    obtain ⟨rfl, rfl⟩ := (key_inj (free declaration first) whole).mp key
    rw [← position]
    exact startsFirst_of_mem_firstDeclarations first

def alloy : Text :=
  Text.joinWith ['\n'] (["[Materials]", "  [./energy]", "    f_name = F",
    "    material_property_names = 'c m:=kappa D[bulk,c] h(eta) 2d'", "  [../]", "  [./motion]",
    "    prop_names = 'kappa F'", "  [../]", "  [./plain]", "  [../]", "[]", "[Variables]",
    "  [./u]", "  [../]", "  [./u]", "  [../]", "[]"].map String.toList)

theorem alloy_keeps_first :
    ((references (Document.anonymous alloy)).run {}).1.map
        (fun entry => (entry.definition.key.string, entry.definition.position)) =
      [("Materials/F", ⟨1, 2⟩), ("Materials/kappa", ⟨5, 2⟩), ("Materials/plain", ⟨8, 2⟩),
        ("Variables/u", ⟨12, 2⟩), ("Materials/c", ⟨1, 2⟩), ("Materials/bulk", ⟨1, 2⟩),
        ("Materials/h", ⟨1, 2⟩)] ∧
    StartsFirst (Document.anonymous alloy).outline "Materials".toList
      (States "Materials".toList · "kappa".toList) ⟨5, 2⟩ ∧
    StartsFirst (Document.anonymous alloy).outline "Materials".toList
      (Expresses "Materials".toList · "bulk".toList) ⟨1, 2⟩ := by
  obtain ⟨-, -, placed⟩ := references_keep_first (Document.anonymous alloy) {}
  refine ⟨by decide +kernel, ?_, ?_⟩
  · obtain ⟨entry, listed, key, position⟩ :
        ∃ entry ∈ ((references (Document.anonymous alloy)).run {}).1,
          entry.definition.key = "Materials".toList ++ '/' :: "kappa".toList ∧
            entry.definition.position = ⟨5, 2⟩ := by
      decide +kernel
    obtain ⟨declaration, member, scope, name, explicit⟩ :
        ∃ declaration ∈ declared (Document.anonymous alloy).outline,
          declaration.scope = "Materials".toList ∧ declaration.name = "kappa".toList ∧
            declaration.explicit = true := by
      decide +kernel
    obtain ⟨holds, states⟩ := mem_declared_iff.mp member
    rw [scope] at holds
    rw [if_pos explicit, scope, name] at states
    rcases placed entry listed _ _ (by decide) key with stated | ⟨unstated, -⟩
    · exact position ▸ stated
    · exact absurd states (unstated _ holds)
  · obtain ⟨entry, listed, key, position⟩ :
        ∃ entry ∈ ((references (Document.anonymous alloy)).run {}).1,
          entry.definition.key = "Materials".toList ++ '/' :: "bulk".toList ∧
            entry.definition.position = ⟨1, 2⟩ := by
      decide +kernel
    have used : ∀ declaration ∈ declared (Document.anonymous alloy).outline,
        declaration.explicit = true → declaration.name ≠ "bulk".toList := by
      decide +kernel
    rcases placed entry listed _ _ (by decide) key with ⟨block, holds, states, -⟩ | ⟨-, expressed⟩
    · have member : ⟨"Materials".toList, "bulk".toList, block, true⟩ ∈
          declared (Document.anonymous alloy).outline := mem_declared_iff.mpr ⟨holds, states⟩
      exact absurd rfl (used _ member rfl)
    · exact position ▸ expressed

end Analysis

end InputDeck
