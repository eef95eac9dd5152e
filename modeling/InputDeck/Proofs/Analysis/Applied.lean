import InputDeck.Proofs.Analysis.Corrections
import InputDeck.Proofs.Layout.Fixpoint

/-!
The corrections of a document, row by row.  Those of a row come together: first what is written into
the row, and then what its layout asks for, so every row is rewritten on its own.
-/

namespace InputDeck

open Text

namespace Analysis

open Edit Layout

section Rows

variable {plain : Prop} {rows : List Text} {found layout : List Diagnostic}

abbrev applied (found : List Diagnostic) : List Edit :=
  lastFirst ((Diagnostic.sortByStart found).filterMap Diagnostic.edit?)

theorem mem_of_mem_applied {edit : Edit} (member : edit ∈ applied (found ++ layout)) :
    edit ∈ found.filterMap Diagnostic.edit? ∨ edit ∈ layout.filterMap Diagnostic.edit? := by
  obtain ⟨diagnostic, sorted, corrected⟩ := List.mem_filterMap.mp (mem_lastFirst.mp member)
  rcases List.mem_append.mp (List.mem_mergeSort.mp sorted) with first | second
  · exact .inl (List.mem_filterMap.mpr ⟨diagnostic, first, corrected⟩)
  · exact .inr (List.mem_filterMap.mpr ⟨diagnostic, second, corrected⟩)

private theorem insertion_of_mem (inserts : ∀ diagnostic ∈ found, diagnostic.InsertsRows plain rows)
    {edit : Edit} (member : edit ∈ found.filterMap Diagnostic.edit?) :
    ∃ (row : Nat) (text : Text), rows[row]? = some text ∧ edit.start.row = row ∧
      (Line.read text).content.isBlank = false ∧ Edit.Insertion plain row text edit ∧
        findingStart row text ≤ edit.start := by
  obtain ⟨diagnostic, inside, corrected⟩ := List.mem_filterMap.mp member
  obtain ⟨row, text, here, content, insertion⟩ := inserts diagnostic inside edit corrected
  refine ⟨row, text, here, ?_, content, insertion, ?_⟩
  · cases insertion <;> rfl
  · rw [findingStart, content, Position.le_def]
    cases insertion <;> simp

/-- The corrections of a row: what is written into it, and then what its layout asks for. -/
theorem exists_insertions (inserts : ∀ diagnostic ∈ found, diagnostic.InsertsRows plain rows)
    (laid : StartInRows rows layout) (row : Nat) :
    ∃ insertions, ofRow row (applied (found ++ layout)) = insertions ++ layoutEdits layout row ∧
      ∀ edit ∈ insertions, ∃ text, rows[row]? = some text ∧
        (Line.read text).content.isBlank = false ∧ Edit.Insertion plain row text edit := by
  let start := findingStart row (rows.getD row [])
  have ofFound : ∀ edit ∈ found.filterMap Diagnostic.edit?, edit.start.row = row →
      (∃ text, rows[row]? = some text ∧ (Line.read text).content.isBlank = false ∧
        Edit.Insertion plain row text edit) ∧ start ≤ edit.start := by
    intro edit member inRow
    obtain ⟨other, text, here, startRow, content, insertion, after⟩ :=
      insertion_of_mem inserts member
    obtain rfl : other = row := Int.ofNat.inj (startRow.symm.trans inRow)
    refine ⟨⟨text, here, content, insertion⟩, ?_⟩
    simpa only [start, List.getD_eq_getElem?_getD, here, Option.getD_some] using after
  have ofLayout : ∀ edit ∈ layout.filterMap Diagnostic.edit?, edit.start.row = row →
      edit.start = start := fun edit member inRow => laid.edit_start_of_row member inRow
  have least : ∀ edit ∈ applied (found ++ layout), edit.start.row = row → start ≤ edit.start := by
    intro edit member inRow
    rcases mem_of_mem_applied member with written | placed
    · exact (ofFound edit written inRow).2
    · rw [ofLayout edit placed inRow]
      exact Position.le_refl start
  have layoutLast : (applied (found ++ layout)).filter (fun edit => edit.start == start) =
      (found.filterMap Diagnostic.edit?).filter (fun edit => edit.start == start) ++
        layoutEdits layout row := by
    rw [filter_start_corrections, List.filterMap_append, List.filter_append, layoutEdits,
      ofRow_eq_filter_start start.column ofLayout]
    rfl
  have split := ofRow_eq_behind_append (pairwise_lastFirst _) least
  refine ⟨_, (split.trans (congrArg _ layoutLast)).trans (List.append_assoc _ _ _).symm, ?_⟩
  intro edit member
  rcases List.mem_append.mp member with behind | there
  · obtain ⟨inRows, later⟩ := List.mem_filter.mp behind
    obtain ⟨inApplied, inRow⟩ := List.mem_filter.mp inRows
    rw [beq_iff_eq] at inRow
    rcases mem_of_mem_applied inApplied with written | placed
    · exact (ofFound edit written inRow).1
    · rw [ofLayout edit placed inRow] at later
      simp [start, findingStart, Position.lt_def] at later
  · obtain ⟨written, same⟩ := List.mem_filter.mp there
    rw [beq_iff_eq] at same
    exact (ofFound edit written (congrArg Position.row same)).1

def written (insertions : Nat → List Edit) (row : Nat) (text : Text) : Text :=
  (insertions row).foldl onRow text

variable {insertions : Nat → List Edit}

def InsertsIn (plain : Prop) (rows : List Text) (insertions : Nat → List Edit) : Prop :=
  ∀ row, ∀ edit ∈ insertions row, ∃ text, rows[row]? = some text ∧
    (Line.read text).content.isBlank = false ∧ Edit.Insertion plain row text edit

namespace InsertsIn

theorem insertion (inserted : InsertsIn plain rows insertions) {row : Nat} {text : Text}
    (here : rows[row]? = some text) :
    ∀ edit ∈ insertions row, Edit.Insertion plain row text edit := by
  intro edit member
  obtain ⟨other, there, -, insertion⟩ := inserted row edit member
  obtain rfl : other = text := Option.some.inj (there.symm.trans here)
  exact insertion

theorem blank (inserted : InsertsIn plain rows insertions) {row : Nat} {text : Text}
    (here : rows[row]? = some text) (blank : (Line.read text).content.isBlank = true) :
    insertions row = [] := by
  rw [List.eq_nil_iff_forall_not_mem]
  intro edit member
  obtain ⟨other, there, content, -⟩ := inserted row edit member
  obtain rfl : other = text := Option.some.inj (there.symm.trans here)
  rw [blank] at content
  cases content

theorem space_prefix (inserted : InsertsIn plain rows insertions) {row : Nat} {text : Text}
    (here : rows[row]? = some text) : text.takeWhile isBlank <+: written insertions row text :=
  space_prefix_foldl (inserted.insertion here) (List.takeWhile_prefix _)

theorem inserts (inserted : InsertsIn plain rows insertions) :
    Inserts rows insertions (written insertions) where
  blank := fun _ _ here blank => inserted.blank here blank
  rewrites := fun row _ here _ => by
    have bound := (List.getElem?_eq_some_iff.mp here).1
    exact rewrites_foldl (inserted.insertion here) (Nat.le_of_lt bound) (Nat.le_refl _)
  space := fun _ _ here => (List.prefix_iff_eq_take.mp (inserted.space_prefix here)).symm

end InsertsIn

end Rows

theorem startInRows_layoutFindings (doc : Document) (width : Option Int) :
    StartInRows doc.rows (layoutFindings doc width) := by
  unfold layoutFindings
  split
  · exact startInRows_foundFrom _ doc.rows
  · exact fun diagnostic member => nomatch member

theorem correct_eq {plain : Prop} {found : List Diagnostic} {insertions : Nat → List Edit}
    (text path : Text) (width : Option Int)
    (inserts : ∀ diagnostic ∈ found, diagnostic.InsertsRows plain (splitOn '\n' text))
    (edits : ∀ row, ofRow row (applied (found ++ layoutFindings (.ofText text path) width)) =
      insertions row ++ layoutEdits (layoutFindings (.ofText text path) width) row)
    (inserted : InsertsIn plain (splitOn '\n' text) insertions) :
    text.correct (Diagnostic.sortByStart (found ++ layoutFindings (.ofText text path) width)) =
      .ok (joinWith ['\n'] (tidy (width.filter (· != 0)) (written insertions) 0 0 false
        (splitOn '\n' text))) := by
  let rows := splitOn '\n' text
  let all := applied (found ++ layoutFindings (.ofText text path) width)
  have joined : joinWith ['\n'] rows = text := joinWith_splitOn '\n' text
  have someRows : rows ≠ [] := splitOn_ne_nil '\n' text
  have rewritten : Rewrites rows (leading rows 0)
      (descending (fun row => ofRow row all) 0 rows.length)
      (joinWith ['\n'] rows)
      (joinWith ['\n'] (tidy (width.filter (· != 0)) (written insertions) 0 0 false rows)) := by
    cases check : width.filter (· != 0) with
    | some tab =>
        have laid : layoutFindings (.ofText text path) width = foundFrom tab 0 0 [] rows := by
          simp only [layoutFindings, check]
          rfl
        have editsFrom : ∀ row, ofRow row all =
            insertions row ++ layoutEdits (foundFrom tab 0 0 [] rows) row := by
          intro row
          rw [← laid]
          exact edits row
        exact rewrites_laid inserted.inserts tab (fun row => ofRow row all) 0 0 [] rows rfl
          (by simp) someRows fun row _ => editsFrom row
    | none =>
        have unlaid : layoutFindings (.ofText text path) width = [] := by
          simp only [layoutFindings, check]
        have same : (fun row => ofRow row all) = insertions := by
          funext row
          rw [edits row, unlaid]
          exact List.append_nil _
        have here : rows.drop 0 = rows := rfl
        rw [same]
        exact rewrites_unlaid inserted.inserts here someRows 0 false
  rw [joined] at rewritten
  apply applyAll_eq _ rewritten
  intro edit member
  rcases mem_of_mem_applied (mem_lastFirst.mpr member) with writes | places
  · obtain ⟨row, other, here, start, -⟩ := insertion_of_mem inserts writes
    exact ⟨row, other, here, start⟩
  · obtain ⟨row, other, here, start⟩ :=
      (startInRows_layoutFindings (.ofText text path) width).edit_start places
    exact ⟨row, other, here, congrArg Position.row start⟩

/-- Corrections that write rows, those of one row starting at one place, write them row by row. -/
theorem correct_of_same_start {plain : Prop} {found : List Diagnostic} (text : Text)
    (inserts : ∀ diagnostic ∈ found, diagnostic.InsertsRows plain (splitOn '\n' text))
    (start : ∀ row : Nat, ∃ column, ∀ edit ∈ found.filterMap Diagnostic.edit?,
      edit.start.row = row → edit.start = ⟨row, column⟩) :
    text.correct found = .ok (joinWith ['\n'] (tidy none
      (written fun row => ofRow row (found.filterMap Diagnostic.edit?)) 0 0 false
      (splitOn '\n' text))) := by
  let rows := splitOn '\n' text
  let edits := found.filterMap Diagnostic.edit?
  have joined : joinWith ['\n'] rows = text := joinWith_splitOn '\n' text
  have inserted : InsertsIn plain rows (fun row => ofRow row edits) := by
    intro row edit member
    obtain ⟨inEdits, inRow⟩ := List.mem_filter.mp member
    obtain ⟨other, here, found, startRow, content, insertion, -⟩ := insertion_of_mem inserts inEdits
    obtain rfl : other = row := Int.ofNat.inj (startRow.symm.trans (beq_iff_eq.mp inRow))
    exact ⟨here, found, content, insertion⟩
  have sameRows : ∀ row, ofRow row (lastFirst edits) = ofRow row edits := by
    intro row
    obtain ⟨column, same⟩ := start row
    exact ofRow_lastFirst column same
  have here : rows.drop 0 = rows := rfl
  have rewritten := rewrites_unlaid inserted.inserts here (splitOn_ne_nil '\n' text) 0 false
  rw [joined] at rewritten
  apply applyAll_eq
  · intro edit member
    obtain ⟨row, other, there, startRow, -⟩ := insertion_of_mem inserts member
    exact ⟨row, other, there, startRow⟩
  · change Rewrites rows [] (descending (fun row => ofRow row (lastFirst edits)) 0 rows.length) _ _
    simp only [sameRows]
    exact rewritten

end Analysis

end InputDeck
