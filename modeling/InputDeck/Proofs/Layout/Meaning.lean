import InputDeck.Proofs.Layout.Fixpoint
import InputDeck.Proofs.Outline.Unplaced
import InputDeck.Service
import Mathlib.Data.List.DropRight
import Mathlib.Data.List.Forall2

/-!
Laying a document out keeps what it says: its rows say the same in the same order, and the outline
and the findings about its structure are the same up to positions.
-/

namespace InputDeck

namespace Layout

/-- A row as layout may leave it: rows of no known form stay, others may be indented anew. -/
def Reindented (old new : Text) : Prop :=
  ((Line.read old).content = .other → new = old) ∧ Text.trimStart new = Text.trimStart old

private theorem reindented_place (width : Int) (depth : Nat) (text : Text) :
    Reindented text (place (some width) (expectedLevel depth (Line.read text).content)
      (text.takeWhile Text.isBlank).length text) := by
  constructor
  · intro other
    rw [other]
    rfl
  · cases expectedLevel depth (Line.read text).content with
    | none => rfl
    | some level =>
        rw [place, Text.drop_length_takeWhile, Text.trimStart_append isBlank_of_mem_indentation]
        exact List.dropWhile_idempotent _ text

theorem forall₂_reindented (width : Int) (rows : List Text) (row depth : Nat) (afterBlank : Bool) :
    List.Forall₂ Reindented (rows.filter (fun text => !(Line.read text).content.isBlank))
      ((tidy (some width) (fun _ text => text) row depth afterBlank rows).filter
        (fun text => !(Line.read text).content.isBlank)) := by
  induction rows generalizing row depth afterBlank with
  | nil => exact .nil
  | cons text rows ih =>
      cases blank : (Line.read text).content.isBlank with
      | true =>
          cases afterBlank with
          | true => simpa [tidy, blank] using ih (row + 1) depth true
          | false => simpa [tidy, blank] using ih (row + 1) depth true
      | false =>
          have placed := (Content.alike_of_reading
            (reading_place width (expectedLevel depth (Line.read text).content) text)).isBlank_eq.trans
              blank
          simp only [tidy, blank, Bool.false_eq_true, if_false]
          rw [List.filter_cons_of_pos (by simp [blank]), List.filter_cons_of_pos (by simp [placed])]
          exact .cons (reindented_place width depth text) (ih (row + 1) _ false)

theorem unplaced_run_tidy (width : Int) (rows : List Text) (row depth : Nat) (afterBlank : Bool)
    {first second : Outline.State} (same : first.unplaced = second.unplaced) :
    (first.run (tidy (some width) (fun _ text => text) row depth afterBlank rows)).unplaced =
      (second.run rows).unplaced := by
  induction rows generalizing row depth afterBlank first second with
  | nil => exact same
  | cons text rows ih =>
      rw [Outline.State.run_cons]
      cases blank : (Line.read text).content.isBlank with
      | true =>
          have skipped : first.unplaced = (second.step text).unplaced := by
            rw [Outline.State.unplaced_step_blank blank, same]
          cases afterBlank with
          | true =>
              simp only [tidy, blank, if_true, Option.isSome_some, Bool.and_true]
              exact ih (row + 1) depth true skipped
          | false =>
              simp only [tidy, blank, if_true, Bool.and_false, Bool.false_eq_true, if_false]
              rw [Outline.State.run_cons]
              apply ih (row + 1) depth true
              rw [Outline.State.unplaced_step_blank blank, skipped]
      | false =>
          simp only [tidy, blank, Bool.false_eq_true, if_false]
          rw [Outline.State.run_cons]
          apply ih (row + 1) _ false
          rw [Outline.State.unplaced_step, Outline.State.unplaced_step]
          exact Outline.State.unplaced_accept same
            (Content.alike_of_reading (reading_place width _ text))

theorem unplaced_read_laidOut (width : Int) (rows : List Text) :
    (Outline.read (laidOut width rows)).unplaced = (Outline.read rows).unplaced := by
  rw [Outline.read, Outline.State.unplaced_finish, laidOut,
    unplaced_run_tidy width rows 0 0 false rfl, ← Outline.State.unplaced_finish, Outline.read]

theorem format_keeps_meaning (settings : Settings) (text path : Text) :
    ∃ fixed : Text,
      (Service.format settings (Document.ofText text path)).2 = .ok fixed ∧
        List.Forall₂ Reindented text.contentRows fixed.contentRows ∧
        (Document.ofText fixed path).outline.map Outline.TopBlock.unplaced =
          (Document.ofText text path).outline.map Outline.TopBlock.unplaced ∧
        (Document.ofText fixed path).structuralDiagnostics.map Diagnostic.unplaced =
          (Document.ofText text path).structuralDiagnostics.map Diagnostic.unplaced := by
  have corrected := correct_layoutDiagnostics text path settings.tabWidth
  have rows := splitOn_laidOut settings.tabWidth text
  have same := unplaced_read_laidOut settings.tabWidth (Text.splitOn '\n' text)
  refine ⟨Text.joinWith ['\n'] (laidOut settings.tabWidth (Text.splitOn '\n' text)), ?_, ?_, ?_, ?_⟩
  · rw [Service.format, Document.text_ofText]
    exact corrected
  · rw [Text.contentRows, Text.contentRows, rows]
    exact forall₂_reindented settings.tabWidth _ 0 0 false
  · simp only [Document.outline, Document.ofText, rows]
    exact congrArg Outline.State.closed same
  · simp only [Document.structuralDiagnostics, Document.ofText, rows]
    exact congrArg Outline.State.found same

end Layout

end InputDeck
