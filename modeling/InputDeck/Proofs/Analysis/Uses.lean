import InputDeck.Analysis.Reference
import InputDeck.Proofs.Outline.Growth
import InputDeck.Proofs.Schema.Settled

/-!
Definitions and uses on a schema that has settled.  There the uses of a document are those of its
blocks, each asked for on its own, and a position refers to a definition exactly when a use of its
name in one of its scopes stands there.
-/

namespace InputDeck

namespace Analysis

open Outline Schema

/-! Asking again. -/

theorem settles_schemaNode? (path : List Text) (type : Option Text) :
    Settles (schemaNode? path type) := by
  refine (Inquiry.settles_find? path).bind fun found => ?_
  cases found with
  | none => exact Settles.pure none
  | some base =>
      simp only
      split
      · exact Settles.pure _
      · exact Settles.pure _
      · exact (Inquiry.settles_find? _).bind fun _ => Settles.pure _

theorem settles_defineAll (declarations : List Declaration) : Settles (defineAll declarations) := by
  induction declarations with
  | nil => exact Settles.pure []
  | cons declaration rest ih =>
      have defined : Settles (define declaration) :=
        (settles_schemaNode? _ _).bind fun _ => Settles.pure _
      exact defined.bind fun _ => ih.bind fun _ => Settles.pure _

theorem settles_blockUses (path : List Text) (block : Block) : Settles (blockUses path block) :=
  (Inquiry.settles_parameters path block.type?).bind fun _ => Settles.pure _

theorem settles_childUses (parent : Text) (children : List Block) :
    Settles (childUses parent children) := by
  induction children with
  | nil => exact Settles.pure []
  | cons child rest ih =>
      exact (settles_blockUses _ child).bind fun _ => ih.bind fun _ => Settles.pure _

theorem settles_allUses (tops : List TopBlock) : Settles (allUses tops) := by
  induction tops with
  | nil => exact Settles.pure []
  | cons top rest ih =>
      refine (settles_blockUses _ top.toBlock).bind fun _ => ?_
      exact (settles_childUses top.name top.children).bind fun _ =>
        ih.bind fun _ => Settles.pure _

theorem settles_references (doc : Document) : Settles (references doc) :=
  (settles_defineAll _).bind fun _ =>
    (settles_allUses doc.outline).bind fun _ => Settles.pure _

/-! What a settled schema gives. -/

section Settled

variable {later : Catalog}

def definitionsAt (doc : Document) (later : Catalog) : List Definition :=
  ((defineAll (firstDeclarations (allDeclarations doc.outline))).run later).1

def usesAt (doc : Document) (later : Catalog) : List Use :=
  ((allUses doc.outline).run later).1

theorem references_at {doc : Document} (still : ((references doc).run later).2 ≤ later) :
    ((references doc).run later).1 = (definitionsAt doc later).map
        (fun definition => ⟨definition, refsOf (usesAt doc later) definition⟩) ∧
      ((allUses doc.outline).run later).2 ≤ later := by
  obtain ⟨-, next, same⟩ := Settles.bind_at
    (fun _ => (settles_allUses doc.outline).bind fun _ => Settles.pure _) still
  exact ⟨same, (Settles.bind_at (fun _ => Settles.pure _) next).1⟩

theorem childUses_at {parent : Text} {children : List Block}
    (still : ((childUses parent children).run later).2 ≤ later) :
    ((childUses parent children).run later).1 =
      children.flatMap (fun child => ((blockUses [parent, child.name] child).run later).1) := by
  induction children with
  | nil => rfl
  | cons child rest ih =>
      obtain ⟨-, next, same⟩ := Settles.bind_at
        (fun _ => (settles_childUses parent rest).bind fun _ => Settles.pure _) still
      obtain ⟨below, -, others⟩ := Settles.bind_at (fun _ => Settles.pure _) next
      have whole : ((childUses parent (child :: rest)).run later).1 =
          ((blockUses [parent, child.name] child).run later).1 ++
            ((childUses parent rest).run later).1 := same.trans others
      rw [whole, ih below, List.flatMap_cons]

def sections (tops : List TopBlock) : List (List Text × Block) :=
  tops.flatMap (fun top => ([top.name], top.toBlock) ::
    top.children.map (fun child => ([top.name, child.name], child)))

theorem mem_sections_iff {tops : List TopBlock} {path : List Text} {block : Block} :
    (path, block) ∈ sections tops ↔ Holds tops path block := by
  rw [sections, List.mem_flatMap]
  constructor
  · rintro ⟨top, member, inside⟩
    rcases List.mem_cons.mp inside with same | below
    · obtain ⟨rfl, rfl⟩ := Prod.mk.inj same
      exact .top member
    · obtain ⟨child, among, same⟩ := List.mem_map.mp below
      obtain ⟨rfl, rfl⟩ := Prod.mk.inj same
      exact .sub member among
  · intro holds
    cases holds with
    | top member => exact ⟨_, member, List.mem_cons_self⟩
    | sub member inside =>
        exact ⟨_, member, List.mem_cons_of_mem _ (List.mem_map.mpr ⟨_, inside, rfl⟩)⟩

theorem allUses_at {tops : List TopBlock} (still : ((allUses tops).run later).2 ≤ later) :
    ((allUses tops).run later).1 =
      (sections tops).flatMap (fun place => ((blockUses place.1 place.2).run later).1) := by
  induction tops with
  | nil => rfl
  | cons top rest ih =>
      obtain ⟨-, next, same⟩ := Settles.bind_at
        (fun _ => (settles_childUses top.name top.children).bind fun _ =>
          (settles_allUses rest).bind fun _ => Settles.pure _) still
      obtain ⟨below, last, others⟩ := Settles.bind_at
        (fun _ => (settles_allUses rest).bind fun _ => Settles.pure _) next
      obtain ⟨after, -, final⟩ := Settles.bind_at (fun _ => Settles.pure _) last
      have whole : ((allUses (top :: rest)).run later).1 =
          ((blockUses [top.name] top.toBlock).run later).1 ++
            ((childUses top.name top.children).run later).1 ++
              ((allUses rest).run later).1 := same.trans (others.trans final)
      have listed : sections (top :: rest) = (([top.name], top.toBlock) ::
          top.children.map (fun child => ([top.name, child.name], child))) ++ sections rest := rfl
      rw [whole, childUses_at below, ih after, listed, List.flatMap_append, List.flatMap_cons,
        List.flatMap_map]

theorem mem_allUses_at {tops : List TopBlock} {use : Use}
    (still : ((allUses tops).run later).2 ≤ later) :
    use ∈ ((allUses tops).run later).1 ↔
      ∃ path block, Holds tops path block ∧ use ∈ ((blockUses path block).run later).1 := by
  rw [allUses_at still, List.mem_flatMap]
  simp only [Prod.exists, mem_sections_iff]

def usesIn (path : List Text) (item : Parameter) (value : Placed) (param : Option Param) :
    List Use :=
  if isDefining path item.name then []
  else
    let namespaces := namespacesFor item.name param
    if namespaces.isEmpty then []
    else value.words.map (fun placed =>
      ⟨placed.1, namespaces, ⟨item.start.row, placed.2⟩⟩)

theorem blockUses_run (path : List Text) (block : Block) :
    ((blockUses path block).run later).1 = block.parameters.flatMap (fun item =>
      item.value.elim [] fun value => usesIn path item value
        ((Inquiry.parameter? path block.type? item.name).run later).1) := by
  rw [blockUses]
  refine congrArg (List.flatMap · block.parameters) (funext fun item => ?_)
  cases item.value <;> rfl

theorem mem_blockUses {path : List Text} {block : Block} {use : Use} :
    use ∈ ((blockUses path block).run later).1 ↔
      ∃ item ∈ block.parameters, ∃ value, item.value = some value ∧
        isDefining path item.name = false ∧
        use.namespaces = namespacesFor item.name
          ((Inquiry.parameter? path block.type? item.name).run later).1 ∧
        use.namespaces ≠ [] ∧
        ∃ column, (use.word, column) ∈ value.words ∧ use.position = ⟨item.start.row, column⟩ := by
  rw [blockUses_run, List.mem_flatMap]
  refine exists_congr fun item => and_congr_right fun _ => ?_
  cases item.value with
  | none => simp
  | some value =>
      simp only [Option.elim_some, Option.some.injEq, exists_eq_left', usesIn]
      cases defining : isDefining path item.name with
      | true => simp
      | false =>
          generalize namespacesFor item.name
            ((Inquiry.parameter? path block.type? item.name).run later).1 = namespaces
          by_cases empty : namespaces = []
          · subst empty
            simpa using fun same filled => absurd same filled
          · simp only [Bool.false_eq_true, if_false, List.isEmpty_iff, empty, List.mem_map,
              Prod.exists, true_and]
            constructor
            · rintro ⟨word, column, placed, rfl⟩
              exact ⟨rfl, empty, column, placed, rfl⟩
            · rintro ⟨rfl, -, column, placed, position⟩
              exact ⟨use.word, column, placed, position ▸ rfl⟩

theorem mem_refsOf {uses : List Use} {definition : Definition} {position : Position} :
    position ∈ refsOf uses definition ↔ ∃ use ∈ uses, use.word = definition.name ∧
      definition.scope ∈ use.namespaces ∧ use.position = position := by
  simp [refsOf, List.mem_mergeSort, and_assoc]

end Settled

/-! Scopes and keys. -/

theorem slash_not_mem_allNamespaces : ∀ scope ∈ allNamespaces, '/' ∉ scope := by decide

theorem slash_not_mem_namespacesFor {name : Text} {param : Option Param} :
    ∀ scope ∈ namespacesFor name param, '/' ∉ scope := by
  have listed : ∀ entry ∈ ValueType.namespaces, ∀ scope ∈ entry.2, '/' ∉ scope := by decide
  have looked : ∀ (type : Text) (found : List Text), ValueType.namespaces.lookup type = some found →
      ∀ scope ∈ found, '/' ∉ scope := by
    intro type found here
    obtain ⟨before, after, whole, -⟩ := List.lookup_eq_some_iff.mp here
    exact listed (type, found) (by simp [whole])
  unfold namespacesFor
  split
  · simp
  · cases param with
    | none => exact slash_not_mem_allNamespaces
    | some param =>
        simp only
        split
        · exact slash_not_mem_allNamespaces
        · cases direct : ValueType.namespaces.lookup param.type with
          | some found => exact looked _ found direct
          | none =>
              cases element : (ValueType.element? param.type).bind
                  (ValueType.namespaces.lookup ·) with
              | none => simp
              | some found =>
                  obtain ⟨type, -, here⟩ := Option.bind_eq_some_iff.mp element
                  exact looked type found here

theorem mem_of_mem_firstDeclarations {all : List Declaration} {declaration : Declaration}
    (member : declaration ∈ firstDeclarations all) : declaration ∈ all := by
  induction all with
  | nil => cases member
  | cons first rest ih =>
      rcases List.mem_cons.mp member with rfl | later
      · exact List.mem_cons_self
      · exact List.mem_cons_of_mem _ (ih (List.mem_filter.mp later).1)

theorem scope_mem_allNamespaces {outline : List TopBlock} {declaration : Declaration}
    (member : declaration ∈ allDeclarations outline) : declaration.scope ∈ allNamespaces := by
  have inside : declaration ∈
      outline.flatMap (fun top => top.children.flatMap (declarations top.name)) := by
    rcases List.mem_append.mp member with stated | used
    · exact (List.mem_filter.mp stated).1
    · exact (List.mem_filter.mp used).1
  obtain ⟨top, -, below⟩ := List.mem_flatMap.mp inside
  obtain ⟨block, -, declared⟩ := List.mem_flatMap.mp below
  unfold declarations at declared
  split at declared
  · next named =>
      obtain rfl := List.mem_singleton.mp declared
      exact List.mem_append_left _ (List.contains_iff_mem.mp named)
  · split at declared
    · next material =>
        have scope : declaration.scope = top.name := by
          rcases List.mem_append.mp declared with stated | used
          · obtain ⟨name, -, rfl⟩ := List.mem_map.mp stated
            rfl
          · obtain ⟨name, -, rfl⟩ := List.mem_map.mp used
            rfl
        rw [scope, eq_of_beq material]
        exact List.mem_append_right _ List.mem_cons_self
    · cases declared

theorem outline_defineAll (declarations : List Declaration) (catalog : Catalog) :
    ((defineAll declarations).run catalog).1.map
        (fun definition => (definition.scope, definition.name, definition.position)) =
      declarations.map
        (fun declaration => (declaration.scope, declaration.name, declaration.block.start)) := by
  induction declarations generalizing catalog with
  | nil => rfl
  | cons declaration rest ih =>
      exact congrArg ((declaration.scope, declaration.name, declaration.block.start) :: ·)
        (ih ((define declaration).run catalog).2)

/-- No scope of a definition has a slash, so that a key is one scope and one name only. -/
theorem slash_not_mem_scope {doc : Document} {later : Catalog} {definition : Definition}
    (member : definition ∈ definitionsAt doc later) : '/' ∉ definition.scope := by
  have placed := List.mem_map_of_mem
    (f := fun definition => (definition.scope, definition.name, definition.position)) member
  rw [definitionsAt, outline_defineAll] at placed
  obtain ⟨declaration, first, same⟩ := List.mem_map.mp placed
  rw [← (Prod.mk.inj same).1]
  exact slash_not_mem_allNamespaces _
    (scope_mem_allNamespaces (mem_of_mem_firstDeclarations first))

theorem slash_not_mem_entry {doc : Document} {later : Catalog} {entry : Reference}
    (still : ((references doc).run later).2 ≤ later)
    (member : entry ∈ ((references doc).run later).1) : '/' ∉ entry.definition.scope := by
  rw [(references_at still).1] at member
  obtain ⟨definition, inside, rfl⟩ := List.mem_map.mp member
  exact slash_not_mem_scope inside

theorem key_inj {scope other name word : Text} (own : '/' ∉ scope) (free : '/' ∉ other) :
    scope ++ '/' :: name = other ++ '/' :: word ↔ scope = other ∧ name = word := by
  have before : ∀ scope name : Text, '/' ∉ scope →
      (scope ++ '/' :: name).takeWhile (· != '/') = scope := by
    intro scope name free
    rw [List.takeWhile_append_of_pos fun c member => by
      simpa using fun same : c = '/' => free (same ▸ member)]
    simp
  constructor
  · intro same
    have scopes : scope = other := by
      rw [← before scope name own, same, before other word free]
    rw [scopes] at same
    exact ⟨scopes, by simpa using same⟩
  · rintro ⟨rfl, rfl⟩
    rfl

theorem key_eq_iff {definition : Definition} {scope name : Text} (own : '/' ∉ definition.scope)
    (other : '/' ∉ scope) :
    definition.key = scope ++ '/' :: name ↔ definition.scope = scope ∧ definition.name = name :=
  key_inj own other

/-- The first entry for a word in the first scope that has one. -/
def resolve? (entries : List Reference) (namespaces : List Text) (word : Text) :
    Option Reference :=
  namespaces.findSome? fun top =>
    entries.find? fun reference => reference.definition.key == top ++ '/' :: word

section Resolve

variable {doc : Document} {later : Catalog} {name word : Text} {param : Option Param}
  {entry : Reference}

theorem resolve?_spec (still : ((references doc).run later).2 ≤ later)
    (found : resolve? ((references doc).run later).1 (namespacesFor name param) word = some entry) :
    entry ∈ ((references doc).run later).1 ∧ entry.definition.name = word ∧
      entry.definition.scope ∈ namespacesFor name param := by
  obtain ⟨scope, listed, first⟩ := List.exists_of_findSome?_eq_some found
  have member := List.mem_of_find?_eq_some first
  have key : entry.definition.key = scope ++ '/' :: word := by simpa using List.find?_some first
  obtain ⟨same, named⟩ := (key_eq_iff (slash_not_mem_entry still member)
    (slash_not_mem_namespacesFor scope listed)).mp key
  exact ⟨member, named, same ▸ listed⟩

theorem exists_resolve? {entries : List Reference} (member : entry ∈ entries)
    (scope : entry.definition.scope ∈ namespacesFor name param) :
    ∃ other, resolve? entries (namespacesFor name param) entry.definition.name = some other := by
  rw [← Option.isSome_iff_exists, resolve?, List.findSome?_isSome_iff]
  refine ⟨entry.definition.scope, scope, ?_⟩
  rw [List.find?_isSome]
  exact ⟨entry, member, beq_self_eq_true _⟩

end Resolve

end Analysis

end InputDeck
