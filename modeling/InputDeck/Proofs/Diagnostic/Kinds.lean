import InputDeck.Proofs.Analysis.Corrections
import InputDeck.Proofs.Analysis.Survey
import InputDeck.Proofs.Layout.Findings

/-!
What each part of the check of a document finds: the outline shows how blocks open and close and
which names are taken twice, and the schema, the switches and the layout have a kind of their own.
-/

namespace InputDeck

namespace Outline.State

section Found

variable {holds : Diagnostic → Prop} {state : State}

theorem forall_found_report (before : ∀ diagnostic ∈ state.found, holds diagnostic)
    {diagnostic : Diagnostic} (new : holds diagnostic) :
    ∀ other ∈ (state.report diagnostic).found, holds other :=
  List.forall_mem_append.mpr ⟨before, by simpa using new⟩

theorem forall_found_reportDuplicate (before : ∀ diagnostic ∈ state.found, holds diagnostic)
    (siblings : List Text) {name : Text} {start stop : Position}
    (new : holds { problem := .duplicateBlock name, start, stop }) :
    ∀ other ∈ (state.reportDuplicate siblings name start stop).found, holds other := by
  unfold reportDuplicate
  split
  · exact forall_found_report before new
  · exact before

theorem forall_found_accept {line : Line} (before : ∀ diagnostic ∈ state.found, holds diagnostic)
    (tag : ∀ problem correction, problem.kind = .closure →
      holds ⟨problem, ⟨state.row, line.indent⟩, ⟨state.row, line.stop⟩, correction⟩)
    (block : ∀ name,
      holds ⟨.duplicateBlock name, ⟨state.row, line.indent⟩, ⟨state.row, line.stop⟩, none⟩)
    (given : ∀ name value, line.content = .parameter name value →
      holds ⟨.duplicateParameter name, ⟨state.row, line.indent⟩,
        ⟨state.row, line.indent + name.length⟩, none⟩) :
    ∀ diagnostic ∈ (state.accept line).found, holds diagnostic := by
  unfold accept
  cases content : line.content with
  | openTop name =>
      unfold openTop
      refine forall_found_reportDuplicate ?_ _ (block name)
      cases state.current with
      | none => exact before
      | some top => exact forall_found_report before (tag _ _ rfl)
  | closeTop =>
      unfold closeTop
      cases state.current with
      | none => exact forall_found_report before (tag _ _ rfl)
      | some top =>
          dsimp only
          split
          · exact forall_found_report before (tag _ _ rfl)
          · exact before
  | openSub name =>
      unfold openSub
      cases state.current with
      | none =>
          exact forall_found_reportDuplicate (forall_found_report before (tag _ _ rfl)) _
            (block name)
      | some top =>
          dsimp only
          split
          · exact forall_found_reportDuplicate (forall_found_report before (tag _ _ rfl)) _
              (block name)
          · exact forall_found_reportDuplicate before _ (block name)
  | closeSub =>
      unfold closeSub
      cases state.current with
      | none => exact forall_found_report before (tag _ _ rfl)
      | some top =>
          dsimp only
          split
          · exact before
          · exact forall_found_report before (tag _ _ rfl)
  | parameter name value =>
      unfold addParameter
      cases state.current with
      | none => exact before
      | some top =>
          dsimp only
          split
          · exact forall_found_report before (given name value content)
          · exact before
  | comment | blank | other => exact before

end Found

/-- Findings about the structure of a document.  Names that are taken twice stay as they are. -/
def Structural (found : List Diagnostic) : Prop :=
  ∀ diagnostic ∈ found, diagnostic.kind = .closure ∨
    diagnostic.kind = .duplication ∧ diagnostic.correction = none

theorem structural_accept {state : State} (structural : Structural state.found) (line : Line) :
    Structural (state.accept line).found :=
  forall_found_accept structural (fun _ _ closure => .inl closure) (fun _ => .inr ⟨rfl, rfl⟩)
    (fun _ _ _ => .inr ⟨rfl, rfl⟩)

theorem structural_run {state : State} (structural : Structural state.found) (rows : List Text) :
    Structural (state.run rows).found := by
  induction rows generalizing state with
  | nil => exact structural
  | cons row rows ih => exact ih (structural_accept structural (Line.read row))

theorem structural_finish {state : State} (structural : Structural state.found) :
    Structural state.finish.found := by
  unfold finish
  cases state.current with
  | none => exact structural
  | some top => exact forall_found_report structural (.inl rfl)

end Outline.State

theorem Document.kind_of_mem_structuralDiagnostics {doc : Document} {diagnostic : Diagnostic}
    (member : diagnostic ∈ doc.structuralDiagnostics) :
    diagnostic.kind = .closure ∨
      diagnostic.kind = .duplication ∧ diagnostic.correction = none := by
  have initial : Outline.State.Structural ({} : Outline.State).found := by
    simp [Outline.State.Structural]
  exact Outline.State.structural_finish (Outline.State.structural_run initial doc.rows)
    diagnostic member

namespace Analysis

theorem kind_of_mem_layoutFindings {doc : Document} {width : Option Int} {diagnostic : Diagnostic}
    (member : diagnostic ∈ layoutFindings doc width) : diagnostic.kind = .layout := by
  unfold layoutFindings at member
  split at member
  · exact (Layout.replaces_of_mem_foundFrom member).1
  · cases member

theorem kind_of_mem_checkSwitches {top : Outline.TopBlock} {diagnostic : Diagnostic}
    (member : diagnostic ∈ checkSwitches top) : diagnostic.kind = .reference := by
  have named : ∀ block children switch, diagnostic ∈ unknownChildren block children switch →
      diagnostic.kind = .reference := by
    intro block children switch inside
    unfold unknownChildren at inside
    split at inside
    · cases inside
    · obtain ⟨name, -, rfl⟩ := List.mem_map.mp inside
      rfl
  have both : ∀ block children, diagnostic ∈
      unknownChildren block children .active ++ unknownChildren block children .inactive →
      diagnostic.kind = .reference :=
    fun block children inside => (List.mem_append.mp inside).elim
      (named block children .active) (named block children .inactive)
  rcases List.mem_append.mp member with own | below
  · exact both _ _ own
  · obtain ⟨child, -, inside⟩ := List.mem_flatMap.mp below
    exact both _ _ inside

theorem Case.kind_of_mem_findings {width : Int} {case : Case} {diagnostic : Diagnostic}
    (member : diagnostic ∈ case.findings width) : diagnostic.kind = .schema := by
  unfold Case.findings at member
  split at member
  · rw [List.mem_singleton.mp member]
    rfl
  · next reply _ =>
      dsimp only at member
      split at member
      · rcases List.mem_append.mp member with unknown | missing
        · obtain ⟨item, -, found⟩ := List.mem_filterMap.mp unknown
          unfold unknownParameter at found
          split at found
          · cases found
          · rw [← Option.some.inj found]
            rfl
        · unfold missingParameters at missing
          split at missing
          · cases missing
          · rw [List.mem_singleton.mp missing]
            rfl
      · unfold unknownType at member
        split at member
        · split at member
          · cases member
          · rw [List.mem_singleton.mp member]
            rfl
        · cases member

end Analysis

end InputDeck
