import InputDeck.Analysis.Completion
import InputDeck.Proofs.Analysis.Declarations

/-!
The names that are offered as values.  They are those of the sub-blocks of some top-level blocks,
which are the blocks that a value of the type refers to; so each of them has a definition, and each
name that is defined there is offered, save that of an object without a type.
-/

namespace InputDeck

namespace Analysis

open Outline Schema

/-! What is offered. -/

section Offered

variable {doc : Document} {source : ValueType.Source} {child : Block} {offer : Completion}

theorem childCompletion?_name (offered : childCompletion? source child = some offer) :
    offer.display = child.name ∧ offer.insertion = .text child.name := by
  unfold childCompletion? at offered
  dsimp only at offered
  split at offered
  · obtain ⟨type, -, rfl⟩ := Option.map_eq_some_iff.mp offered
    exact ⟨rfl, rfl⟩
  · obtain rfl := Option.some.inj offered
    exact ⟨rfl, rfl⟩

theorem exists_childCompletion? (typed : "type".toList ∈ source.properties →
      propertyValue? child "type".toList ≠ none) :
    ∃ offer, childCompletion? source child = some offer := by
  unfold childCompletion?
  dsimp only
  split
  · next object =>
      obtain ⟨type, given⟩ :=
        Option.ne_none_iff_exists'.mp (typed (List.contains_iff_mem.mp object))
      exact ⟨_, congrArg (Option.map _) given⟩
  · exact ⟨_, rfl⟩

theorem mem_completeChildren_iff :
    offer ∈ completeChildren doc source ↔ ∃ top child,
      top ∈ doc.outline ∧ child ∈ top.children ∧ top.name ∈ source.blocks ∧
        childCompletion? source child = some offer := by
  simp only [completeChildren, List.mem_flatMap, List.mem_filter, List.mem_filterMap,
    beq_iff_eq]
  constructor
  · rintro ⟨_, listed, top, ⟨member, rfl⟩, child, inside, offered⟩
    exact ⟨top, child, member, inside, listed, offered⟩
  · rintro ⟨top, child, member, inside, listed, offered⟩
    exact ⟨_, listed, top, ⟨member, rfl⟩, child, inside, offered⟩

theorem propertyValue?_of_type? (typed : child.type? ≠ none) :
    propertyValue? child "type".toList ≠ none := by
  obtain ⟨value, given⟩ := Option.ne_none_iff_exists'.mp typed
  obtain ⟨text, valued, -⟩ := Option.map_eq_some_iff.mp given
  obtain ⟨item, found, worded⟩ := Option.bind_eq_some_iff.mp valued
  have member : text ∈ (child.parameters.filter (fun item => item.name == "type".toList)).filterMap
      Parameter.valueText? := by
    obtain ⟨named, -⟩ := List.find?_eq_some_iff_append.mp found
    exact List.mem_filterMap.mpr
      ⟨item, List.mem_filter.mpr ⟨List.mem_of_find?_eq_some found, named⟩, worded⟩
  have last := List.getLast?_eq_some_getLast (List.ne_nil_of_mem member)
  rw [propertyValue?, last]
  nofun

end Offered

/-! What is defined. -/

section Defined

theorem types_defineAll (declarations : List Declaration) (catalog : Catalog) :
    ((defineAll declarations).run catalog).1.map
        (fun definition => (definition.scope, definition.name, definition.type)) =
      declarations.map
        (fun declaration => (declaration.scope, declaration.name, declaration.block.type?)) := by
  induction declarations generalizing catalog with
  | nil => rfl
  | cons declaration rest ih =>
      exact congrArg ((declaration.scope, declaration.name, declaration.block.type?) :: ·)
        (ih ((define declaration).run catalog).2)

variable {doc : Document} {catalog : Catalog}

theorem types_references (doc : Document) (catalog : Catalog) :
    ((references doc).run catalog).1.map (fun entry =>
        (entry.definition.scope, entry.definition.name, entry.definition.type)) =
      (firstDeclarations (allDeclarations doc.outline)).map
        (fun declaration => (declaration.scope, declaration.name, declaration.block.type?)) := by
  rw [← types_defineAll _ catalog]
  exact List.map_map

theorem exists_entry_of_child (catalog : Catalog) {top : TopBlock} {child : Block}
    (member : top ∈ doc.outline) (inside : child ∈ top.children)
    (named : top.name ∈ namedBlocks) :
    ∃ entry ∈ ((references doc).run catalog).1,
      entry.definition.scope = top.name ∧ entry.definition.name = child.name := by
  let declaration : Declaration := { scope := top.name, name := child.name, block := child }
  have declared : declaration ∈ allDeclarations doc.outline :=
    mem_allDeclarations.mpr (mem_declared_iff.mpr ⟨.sub member inside, .own named⟩)
  obtain ⟨first, kept, scope, name⟩ := exists_mem_firstDeclarations declared
  have listed := List.mem_map_of_mem
    (f := fun declaration : Declaration =>
      (declaration.scope, declaration.name, declaration.block.type?)) kept
  rw [← types_references doc catalog] at listed
  obtain ⟨entry, entered, same⟩ := List.mem_map.mp listed
  obtain ⟨ownScope, rest⟩ := Prod.mk.inj same
  obtain ⟨ownName, -⟩ := Prod.mk.inj rest
  exact ⟨entry, entered, ownScope.trans scope, ownName.trans name⟩

theorem exists_child_of_entry {entry : Reference}
    (listed : entry ∈ ((references doc).run catalog).1)
    (named : entry.definition.scope ∈ namedBlocks) :
    ∃ top child, top ∈ doc.outline ∧ child ∈ top.children ∧
      entry.definition.scope = top.name ∧ entry.definition.name = child.name ∧
        entry.definition.type = child.type? := by
  have placed := List.mem_map_of_mem
    (f := fun entry : Reference =>
      (entry.definition.scope, entry.definition.name, entry.definition.type)) listed
  rw [types_references] at placed
  obtain ⟨⟨scope, name, block, explicit⟩, kept, same⟩ := List.mem_map.mp placed
  obtain ⟨ownScope, rest⟩ := Prod.mk.inj same
  obtain ⟨ownName, ownType⟩ := Prod.mk.inj rest
  dsimp only at ownScope ownName ownType
  have other : scope ≠ materials := by
    rintro rfl
    rw [← ownScope] at named
    exact absurd named (by decide)
  obtain ⟨holds, declares⟩ :=
    mem_declared_iff.mp (mem_allDeclarations.mp (mem_of_mem_firstDeclarations kept))
  dsimp only at holds declares
  have own : name = block.name := by
    split at declares
    · cases declares with
      | own | unnamed => rfl
      | word material => exact absurd material other
    · exact absurd declares.1 other
  generalize path : [scope, block.name] = names at holds
  cases holds with
  | top => cases path
  | sub member inside =>
      obtain ⟨rfl, -⟩ := List.cons.inj path
      exact ⟨_, block, member, inside, ownScope.symm, ownName.symm.trans own, ownType.symm⟩

end Defined

/-- The blocks that supply names for values of a type are those that such values refer to, and they
are blocks whose sub-blocks define their names. -/
theorem sources_match : ∀ entry ∈ ValueType.sources, ∃ namespaces,
    ValueType.namespaces.lookup entry.1 = some namespaces ∧
      entry.2.blocks ⊆ namespaces ∧ namespaces ⊆ entry.2.blocks ∧ namespaces ⊆ namedBlocks := by
  have checked : ∀ entry ∈ ValueType.sources,
      (ValueType.namespaces.lookup entry.1).any (fun namespaces =>
        decide (entry.2.blocks ⊆ namespaces ∧ namespaces ⊆ entry.2.blocks ∧
          namespaces ⊆ namedBlocks)) = true := by decide
  intro entry member
  obtain ⟨namespaces, found, holds⟩ := (Option.any_eq_true _ _).mp (checked entry member)
  exact ⟨namespaces, found, of_decide_eq_true holds⟩

/-- For each of the seven types of values that are names of sub-blocks, what is offered is the name
of an entry in one of the scopes of the type, and each entry of these scopes is offered if it has a
type or does not need one. -/
theorem value_names_resolve (doc : Document) (catalog : Catalog) :
    ValueType.sources.map Prod.fst = ["NonlinearVariableName", "AuxVariableName", "VariableName",
      "FunctionName", "PostprocessorName", "UserObjectName", "VectorPostprocessorName"].map
        String.toList ∧
    ∀ type source, (type, source) ∈ ValueType.sources →
      ∃ scopes, ValueType.namespaces.lookup type = some scopes ∧
        (∀ offer ∈ completeChildren doc source, offer.insertion = .text offer.display ∧
          ∃ entry ∈ ((references doc).run catalog).1,
            entry.definition.name = offer.display ∧ entry.definition.scope ∈ scopes) ∧
        ∀ entry ∈ ((references doc).run catalog).1, entry.definition.scope ∈ scopes →
          ("type".toList ∈ source.properties → entry.definition.type ≠ none) →
          ∃ offer ∈ completeChildren doc source, offer.display = entry.definition.name := by
  refine ⟨rfl, fun type source listed => ?_⟩
  obtain ⟨scopes, found, supplied, used, named⟩ := sources_match _ listed
  refine ⟨scopes, found, fun offer offered => ?_, fun entry entered scope typed => ?_⟩
  · obtain ⟨top, child, member, inside, block, same⟩ := mem_completeChildren_iff.mp offered
    obtain ⟨display, insertion⟩ := childCompletion?_name same
    obtain ⟨entry, entered, scope, name⟩ :=
      exists_entry_of_child catalog member inside (named (supplied block))
    exact ⟨by rw [insertion, display], entry, entered, name.trans display.symm,
      scope ▸ supplied block⟩
  · obtain ⟨top, child, member, inside, own, name, type⟩ :=
      exists_child_of_entry entered (named scope)
    obtain ⟨offer, same⟩ : ∃ offer, childCompletion? source child = some offer :=
      exists_childCompletion? fun object => propertyValue?_of_type? (type ▸ typed object)
    refine ⟨offer, mem_completeChildren_iff.mpr ⟨top, child, member, inside, ?_, same⟩, ?_⟩
    · exact used (own ▸ scope)
    · exact (childCompletion?_name same).1.trans name.symm

/-- A deck in which one function is declared twice, first without the value of its type, and another
has no type at all. -/
def retyped : Text :=
  Text.joinWith ['\n'] (["[Functions]", "  [./f]", "    type =", "    type = 'Parsed'", "  [../]",
    "  [./g]", "  [../]", "  [./h]", "    type = Constant", "  [../]", "[]"].map String.toList)

/-- The first function is offered although its definition has no type. -/
theorem retyped_value_names :
    (completeChildren (Document.anonymous retyped)
        ⟨["Functions".toList], ["type".toList]⟩).map (·.display) = [['f'], ['h']] ∧
      (∃ entry ∈ ((references (Document.anonymous retyped)).run {}).1,
        entry.definition.name = ['f'] ∧ entry.definition.type = none) ∧
      ∃ entry ∈ ((references (Document.anonymous retyped)).run {}).1,
        entry.definition.name = ['h'] ∧ entry.definition.type ≠ none ∧
        ∃ offer ∈ completeChildren (Document.anonymous retyped)
          ⟨["Functions".toList], ["type".toList]⟩, offer.display = ['h'] := by
  have functions : ("FunctionName".toList,
      (⟨["Functions".toList], ["type".toList]⟩ : ValueType.Source)) ∈ ValueType.sources := by
    simp [ValueType.sources]
  obtain ⟨scopes, found, -, complete⟩ :=
    (value_names_resolve (Document.anonymous retyped) {}).2 _ _ functions
  obtain rfl : scopes = ["Functions".toList] := by
    rw [← Option.some.injEq, ← found]
    decide
  obtain ⟨entry, listed, name, scope, typed⟩ :
      ∃ entry ∈ ((references (Document.anonymous retyped)).run {}).1,
        entry.definition.name = ['h'] ∧ entry.definition.scope ∈ ["Functions".toList] ∧
          entry.definition.type ≠ none := by decide +kernel
  obtain ⟨offer, offered, display⟩ := complete entry listed scope fun _ => typed
  exact ⟨by decide +kernel, by decide +kernel, entry, listed, name, typed, offer, offered,
    display.trans name⟩

end Analysis

end InputDeck
