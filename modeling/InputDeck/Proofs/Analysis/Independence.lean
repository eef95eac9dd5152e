import InputDeck.Proofs.Analysis.Spans
import InputDeck.Proofs.Service.Filtering

/-!
What a check owes to the schema: the descriptions in its outline, and the findings about the schema.
All else is read off the document, so that two databases cannot be told apart by it.
-/

namespace InputDeck

namespace Analysis

open Outline Schema

/-! Marking blocks that are switched off does not depend on descriptions. -/

theorem turnedOff_undescribed (block : Block) (children : List Text) (switch : Switch) :
    turnedOff block.undescribed children switch = turnedOff block children switch := by
  unfold turnedOff
  rw [switchValue?_undescribed]
  cases switchValue? block switch <;> rfl

theorem undescribed_markInactive (top : TopBlock) :
    (markInactive top).undescribed = markInactive top.undescribed := by
  have names : top.undescribed.children.map (·.name) = top.children.map (·.name) := by
    simp [TopBlock.undescribed, Block.undescribed]
  have own : top.undescribed.toBlock = top.toBlock.undescribed := rfl
  simp only [markInactive, own, names, turnedOff_undescribed]
  rfl

/-! The part of a check that the document alone decides. -/

section Assess

variable (doc : Document) (width : Option Int) (catalog : Catalog)

theorem undescribed_assess :
    (((assess doc width).run catalog).1.outline).map TopBlock.undescribed =
      (doc.outline.map TopBlock.undescribed).map markInactive := by
  obtain ⟨outline, same, assessed, -⟩ := assess_run doc catalog
  have marked : ∀ tops : List TopBlock, (tops.map markInactive).map TopBlock.undescribed =
      (tops.map TopBlock.undescribed).map markInactive := by
    intro tops
    simp only [List.map_map, List.map_inj_left, Function.comp_apply]
    exact fun top _ => undescribed_markInactive top
  rw [assessed width, marked, same]

def beyondSchema (found : List Diagnostic) : List Diagnostic :=
  found.filter (fun diagnostic => diagnostic.kind != .schema)

theorem beyondSchema_eq_self {found : List Diagnostic}
    (other : ∀ diagnostic ∈ found, diagnostic.kind ≠ .schema) : beyondSchema found = found := by
  rw [beyondSchema, List.filter_eq_self]
  intro diagnostic member
  simpa using other diagnostic member

theorem beyondSchema_findings (cases : List Case) (columns : Int) :
    beyondSchema (cases.flatMap (Case.findings columns)) = [] := by
  rw [beyondSchema, List.filter_eq_nil_iff]
  intro diagnostic member
  obtain ⟨case, -, found⟩ := List.mem_flatMap.mp member
  simp [case.kind_of_mem_findings found]

theorem beyondSchema_assess :
    beyondSchema ((assess doc width).run catalog).1.diagnostics = Diagnostic.sortByStart
      (doc.structuralDiagnostics ++ doc.outline.flatMap checkSwitches ++
        layoutFindings doc width) := by
  obtain ⟨outline, same, -, assessed⟩ := assess_run doc catalog
  have structural : beyondSchema doc.structuralDiagnostics = doc.structuralDiagnostics := by
    apply beyondSchema_eq_self
    intro diagnostic member
    rcases doc.kind_of_mem_structuralDiagnostics member with kind | ⟨kind, -⟩ <;> simp [kind]
  have switches : beyondSchema (doc.outline.flatMap checkSwitches) =
      doc.outline.flatMap checkSwitches := by
    apply beyondSchema_eq_self
    intro diagnostic member
    obtain ⟨top, -, found⟩ := List.mem_flatMap.mp member
    simp [kind_of_mem_checkSwitches found]
  have layout : beyondSchema (layoutFindings doc width) = layoutFindings doc width := by
    apply beyondSchema_eq_self
    intro diagnostic member
    simp [kind_of_mem_layoutFindings member]
  have schema := beyondSchema_findings ((inspect doc).run catalog).1 (schemaWidth width)
  rw [(assessed width).1, checkSwitches_congr same, beyondSchema, Diagnostic.filter_sortByStart]
  unfold beyondSchema at structural switches layout schema
  simp only [List.filter_append, structural, switches, layout, schema, List.append_nil]

end Assess

/-- The checks of a document with two databases, each loaded, failed or empty, differ in
descriptions and in findings about the schema only. -/
theorem assess_independent_of_schema (doc : Document) (width : Option Int) (load other : Load)
    (first second : Database) :
    ((first.consult load (assess doc width)).1.outline).map TopBlock.undescribed =
        ((second.consult other (assess doc width)).1.outline).map TopBlock.undescribed ∧
      beyondSchema (first.consult load (assess doc width)).1.diagnostics =
        beyondSchema (second.consult other (assess doc width)).1.diagnostics := by
  rw [Database.consult_fst, Database.consult_fst]
  constructor
  · rw [undescribed_assess, undescribed_assess]
  · rw [beyondSchema_assess, beyondSchema_assess]

end Analysis

end InputDeck
