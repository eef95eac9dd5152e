import InputDeck.Proofs.Diagnostic.Kinds
import InputDeck.Proofs.Edit.Rewriting
import InputDeck.Proofs.Line.Value
import InputDeck.Proofs.Outline.Rooted

/-!
Where findings stand.  Each is about a span of the document: its ends are places in rows, and the
start does not come after the stop.  So all corrections can be applied.
-/

namespace InputDeck

open Text

/-- A place in a row of a document, or at its end. -/
def Position.Within (rows : List Text) (position : Position) : Prop :=
  ∃ (row column : Nat) (text : Text), rows[row]? = some text ∧ column ≤ text.length ∧
    position = ⟨row, column⟩

structure Diagnostic.Spans (rows : List Text) (diagnostic : Diagnostic) : Prop where
  ordered : diagnostic.start ≤ diagnostic.stop
  start : diagnostic.start.Within rows
  stop : diagnostic.stop.Within rows

namespace Diagnostic

variable {rows : List Text} {row : Nat} {text : Text}

theorem spans_of_row (here : rows[row]? = some text) {first last : Nat} (ordered : first ≤ last)
    (within : last ≤ text.length) (problem : Problem) (correction : Option Correction) :
    Spans rows ⟨problem, ⟨row, first⟩, ⟨row, last⟩, correction⟩ where
  ordered := .inr ⟨rfl, Int.ofNat_le.mpr ordered⟩
  start := ⟨row, first, text, here, Nat.le_trans ordered within, rfl⟩
  stop := ⟨row, last, text, here, within, rfl⟩

end Diagnostic

namespace Outline.State

theorem spans_accept {rows : List Text} {state : State} {text : Text}
    (here : rows[state.row]? = some text)
    (spans : ∀ diagnostic ∈ state.found, diagnostic.Spans rows) :
    ∀ diagnostic ∈ (state.accept (Line.read text)).found, diagnostic.Spans rows := by
  have ordered := Line.indent_read_le_stop text
  have within := Line.stop_read_le text
  apply forall_found_accept spans
  · intro problem correction _
    exact Diagnostic.spans_of_row here ordered within problem correction
  · intro name
    exact Diagnostic.spans_of_row here ordered within _ none
  · intro name value reads
    have named := Line.name_le_of_parameter reads
    exact Diagnostic.spans_of_row here (Nat.le_add_right _ name.length)
      (Nat.le_trans named within) _ none

theorem spans_run {rows rest : List Text} {state : State} (here : rows.drop state.row = rest)
    (spans : ∀ diagnostic ∈ state.found, diagnostic.Spans rows) :
    ∀ diagnostic ∈ (state.run rest).found, diagnostic.Spans rows := by
  induction rest generalizing state with
  | nil => exact spans
  | cons text rest ih =>
      exact ih (drop_succ_of_drop here) (spans_accept (getElem?_of_drop here) spans)

theorem ended_run (rows : List Text) : (run {} rows).Ended rows := by
  have initial : ({} : State).Rooted rows := ⟨by simp, by simp, by simp⟩
  have unended : ({} : State).Ended rows := fun opened => absurd rfl opened
  exact (rooted_run rfl initial unended).2

end Outline.State

theorem Document.spans_structuralDiagnostics (doc : Document) :
    ∀ diagnostic ∈ doc.structuralDiagnostics, diagnostic.Spans doc.rows := by
  have found : ∀ diagnostic ∈ (Outline.State.run {} doc.rows).found,
      diagnostic.Spans doc.rows :=
    Outline.State.spans_run (List.drop_zero : doc.rows.drop 0 = doc.rows) (by simp)
  have ended := Outline.State.ended_run doc.rows
  rw [structuralDiagnostics, Outline.read]
  cases current : (Outline.State.run {} doc.rows).current with
  | none => rwa [Outline.State.finish, current]
  | some top =>
      obtain ⟨row, text, here, -, -, stop⟩ := ended (by simp [current])
      simp only [Outline.State.finish, current, stop, Option.getD_some]
      exact Outline.State.forall_found_report found
        (Diagnostic.spans_of_row here (Nat.zero_le _) (Nat.le_refl _) _ _)

namespace Layout

variable {rows : List Text} {diagnostic : Diagnostic}

theorem spans_of_mem_blankRun {row : Nat} {texts later : List Text}
    (here : rows.drop row = texts ++ later) (member : diagnostic ∈ blankRun (blankEnds row texts)) :
    diagnostic.Spans rows := by
  match texts, member with
  | first :: second :: rest, member =>
      have last := getLast_blankEnds (row + 1) (List.cons_ne_nil second rest)
        (by simp [blankEnds])
      simp only [blankEnds, List.length_cons, Nat.add_sub_cancel, ← Nat.add_assoc] at last
      simp only [blankEnds, blankRun, List.mem_singleton, last] at member
      have found : rows[row]? = some first := getElem?_of_drop here
      have ended : rows[row + 1 + rest.length]? =
          some ((second :: rest).getLast (List.cons_ne_nil second rest)) := by
        rw [Nat.add_assoc, ← List.getElem?_drop, here, List.getElem?_append_left (by simp; omega)]
        simp [Nat.add_comm 1, List.getLast_eq_getElem]
      rw [member]
      refine ⟨.inl ?_, ⟨row, _, first, found, Nat.le_refl _, rfl⟩,
        ⟨row + 1 + rest.length, _, _, ended, Nat.le_refl _, rfl⟩⟩
      simp only
      omega

theorem spans_of_mem_foundAt {width : Int} {row level : Nat} {text : Text}
    (here : rows[row]? = some text) (member : diagnostic ∈ foundAt width row level text) :
    diagnostic.Spans rows := by
  unfold foundAt at member
  split at member
  · simp only [misplaced] at member
    split at member
    · cases member
    · obtain rfl := List.mem_singleton.mp member
      exact Diagnostic.spans_of_row here (Nat.zero_le _) (length_takeWhile_le text) _ _
  · cases member

end Layout

theorem Document.spans_layoutDiagnostics (doc : Document) (width : Int) :
    ∀ diagnostic ∈ doc.layoutDiagnostics width, diagnostic.Spans doc.rows := by
  intro diagnostic member
  have whole : doc.rows.drop 0 = [] ++ doc.rows := rfl
  rcases Layout.exists_rows_of_mem_foundFrom 0 [] whole (by simp) member with
    ⟨row, texts, later, -, here, -, inside⟩ | ⟨row, text, level, -, here, -, inside⟩
  · exact Layout.spans_of_mem_blankRun here inside
  · exact Layout.spans_of_mem_foundAt here inside

namespace Edit

variable {rows : List Text} {edit : Edit}

theorem exists_offset {position : Position} (within : position.Within rows) :
    ∃ place : Nat, offset (rowOffsets 0 rows) position = .ok place := by
  obtain ⟨row, column, text, here, -, rfl⟩ := within
  have bound := (List.getElem?_eq_some_iff.mp here).1
  exact ⟨_, offset_eq (Nat.le_of_lt bound) column⟩

theorem exists_applyOne (start : edit.start.Within rows) (stop : edit.stop.Within rows)
    (text : Text) : ∃ new, applyOne (rowOffsets 0 rows) text edit = .ok new := by
  obtain ⟨first, started⟩ := exists_offset start
  obtain ⟨last, stopped⟩ := exists_offset stop
  exact ⟨_, by simp only [applyOne, started, stopped]; rfl⟩

theorem exists_foldlM {edits : List Edit}
    (within : ∀ edit ∈ edits, edit.start.Within rows ∧ edit.stop.Within rows) (text : Text) :
    ∃ new, edits.foldlM (applyOne (rowOffsets 0 rows)) text = .ok new := by
  induction edits generalizing text with
  | nil => exact ⟨text, rfl⟩
  | cons edit edits ih =>
      obtain ⟨start, stop⟩ := within edit List.mem_cons_self
      obtain ⟨new, applied⟩ := exists_applyOne start stop text
      rw [List.foldlM_cons, applied]
      exact ih (fun other later => within other (List.mem_cons_of_mem _ later)) new

end Edit

theorem Text.exists_correct {text : Text} {found : List Diagnostic}
    (spans : ∀ diagnostic ∈ found, diagnostic.Spans (splitOn '\n' text)) :
    ∃ fixed, text.correct found = .ok fixed := by
  apply Edit.exists_foldlM
  intro edit member
  obtain ⟨diagnostic, inside, corrected⟩ := List.mem_filterMap.mp (List.mem_mergeSort.mp member)
  obtain ⟨correction, -, rfl⟩ := Option.map_eq_some_iff.mp corrected
  exact ⟨(spans diagnostic inside).start, (spans diagnostic inside).stop⟩

end InputDeck
