import InputDeck.Proofs.Analysis.Applied
import InputDeck.Proofs.Edit.Carry
import InputDeck.Proofs.Layout.Readings
import Mathlib

/-!
Repairing a document.  All corrections are applied at the places they had before any of them was, so
the tag of a row that gets closing tags in front of it may be cut by what is written behind it.
Where no tag is cut, every row that is not blank is kept; where one is, its block is lost.
-/

namespace InputDeck

open Text

namespace Analysis

open Edit Layout Schema

theorem isInsertion_layoutFindings {doc : Document} {width : Option Int} {edit : Edit}
    (member : edit ∈ (layoutFindings doc width).filterMap Diagnostic.edit?) :
    isInsertion edit = false := by
  obtain ⟨diagnostic, inside, corrected⟩ := List.mem_filterMap.mp member
  have replaces : ∃ new, diagnostic.correction = some (.replace new) := by
    unfold layoutFindings at inside
    split at inside
    · exact (replaces_of_mem_foundFrom inside).2
    · cases inside
  obtain ⟨new, correction⟩ := replaces
  rw [Diagnostic.edit?, correction] at corrected
  obtain rfl := Option.some.inj corrected
  simp [isInsertion]

private theorem filter_isInsertion {plain : Prop} {rows : List Text}
    {insertions : Nat → List Edit} (inserted : InsertsIn plain rows insertions)
    (doc : Document) (width : Option Int) (row : Nat) :
    (insertions row ++ layoutEdits (layoutFindings doc width) row).filter isInsertion =
      insertions row := by
  have all : (insertions row).filter isInsertion = insertions row := by
    rw [List.filter_eq_self]
    intro edit member
    obtain ⟨text, -, -, insertion⟩ := inserted row edit member
    cases insertion <;> rfl
  have none : (layoutEdits (layoutFindings doc width) row).filter isInsertion = [] := by
    rw [List.filter_eq_nil_iff]
    intro edit member
    simp [isInsertion_layoutFindings (List.mem_filter.mp member).1]
  rw [List.filter_append, all, none, List.append_nil]

theorem fix_eq (text path : Text) (width : Option Int) (catalog : Catalog) :
    let doc := Document.ofText text path
    let insertions := insertionsOf
      (((assess doc width).run catalog).1.diagnostics.filterMap Diagnostic.edit?)
    InsertsIn (catalog.Every Param.Plain) doc.rows insertions ∧
      ((fix doc width).run catalog).1 = .ok (joinWith ['\n']
        (tidy (width.filter (· != 0)) (written insertions) 0 0 false doc.rows)) := by
  intro doc insertions
  obtain ⟨⟨found, inserts, diagnostics⟩, -⟩ :=
    assess_checks (catalog.Every Param.Plain) doc width catalog id
  choose inRow order inserted using
    exists_insertions inserts (startInRows_layoutFindings doc width)
  have same : insertions = inRow := by
    funext row
    simp only [insertions, insertionsOf, diagnostics]
    rw [order row]
    exact filter_isInsertion inserted doc width row
  rw [same]
  refine ⟨inserted, ?_⟩
  have corrected := correct_eq text path width inserts order inserted
  rw [← diagnostics] at corrected
  have unchanged : doc.text = text := Document.text_ofText text path
  calc
    ((fix doc width).run catalog).1 =
        doc.text.correct ((assess doc width).run catalog).1.diagnostics := rfl
    _ = _ := by rw [unchanged]; exact corrected

section Kept

variable {plain : Prop} {text : Text} {insertions : Nat → List Edit}

theorem sublist_of_tags_stand (inserted : InsertsIn plain (splitOn '\n' text) insertions)
    (stand : TagsStand (splitOn '\n' text) insertions) (width : Option Int) :
    (contentReadings text).Sublist (readings (joinWith ['\n']
      (tidy width (written insertions) 0 0 false (splitOn '\n' text)))) := by
  have free : ∀ row ∈ splitOn '\n' text, '\n' ∉ row := fun _ member => not_mem_of_mem_splitOn member
  have whole : (splitOn '\n' text).drop 0 = splitOn '\n' text := rfl
  rw [readings_joinWith (tidy_ne_nil _ _ _ _ (splitOn_ne_nil '\n' text))]
  apply sublist_readings_tidy width free (fun _ _ here => inserted.space_prefix here) _ whole
  intro row line here content
  apply reading_kept (inserted.insertion here) (free line (List.mem_of_getElem? here))
  exact fun level name opened => stand row line level name here opened

theorem tags_stand_of_sublist (inserted : InsertsIn plain (splitOn '\n' text) insertions)
    (holds : plain) (width : Option Int)
    (kept : (contentReadings text).Sublist (readings (joinWith ['\n']
      (tidy width (written insertions) 0 0 false (splitOn '\n' text))))) :
    TagsStand (splitOn '\n' text) insertions := by
  have free : ∀ row ∈ splitOn '\n' text, '\n' ∉ row := fun _ member => not_mem_of_mem_splitOn member
  have whole : (splitOn '\n' text).drop 0 = splitOn '\n' text := rfl
  have enough := openings_le_of_sublist kept
  rw [openings_joinWith (tidy_ne_nil _ _ _ _ (splitOn_ne_nil '\n' text))] at enough
  have counted := openings_tidy width free (fun _ _ here => inserted.space_prefix here)
    (fun row line here => openings_written_le (inserted.insertion here) holds
      (free line (List.mem_of_getElem? here))) whole 0 false
  intro row line level name here opened
  have opens := (Line.opens_iff_content line).mpr ⟨level, name, opened⟩
  have opening := counted.2 enough row line (Nat.zero_le row) here opens
  exact stands_of_opening (inserted.insertion here) holds
    (free line (List.mem_of_getElem? here)) opened opening

end Kept

/-- Fixing a document gives a text.  It keeps every row that is not blank if no tag is cut, and for
a schema whose defaults cannot be taken for tags only then. -/
theorem fix_keeps_rows_iff_tags_stand (text path : Text) (width : Option Int) (catalog : Catalog) :
    let doc := Document.ofText text path
    let edits := ((assess doc width).run catalog).1.diagnostics.filterMap Diagnostic.edit?
    ∃ fixed, ((fix doc width).run catalog).1 = .ok fixed ∧
      (TagsStand doc.rows (insertionsOf edits) →
        (contentReadings text).Sublist (readings fixed)) ∧
      (catalog.Every Param.Plain → (contentReadings text).Sublist (readings fixed) →
        TagsStand doc.rows (insertionsOf edits)) := by
  intro doc edits
  obtain ⟨inserted, fixed⟩ := fix_eq text path width catalog
  refine ⟨_, fixed, ?_, ?_⟩
  · exact fun stand => sublist_of_tags_stand inserted stand _
  · exact fun plain kept => tags_stand_of_sublist inserted plain _ kept

/-- The closing tag in front of `[B]` moves it to where the closing tag behind it was meant to go.
Behind a sub-block there are more of them, and they move it further. -/
theorem fix_cuts_one_tag_of_two :
    (∃ fixed, ((fix (.ofText "[A]\n[B]".toList []) none).run {}).1 = .ok fixed ∧
      ¬(contentReadings "[A]\n[B]".toList).Sublist (readings fixed)) ∧
    (∃ fixed, ((fix (.ofText "[A]\n[./b]\n[B]".toList []) none).run {}).1 = .ok fixed ∧
      (contentReadings "[A]\n[./b]\n[B]".toList).Sublist (readings fixed)) := by
  constructor
  · obtain ⟨fixed, result, -, stand⟩ :=
      fix_keeps_rows_iff_tags_stand "[A]\n[B]".toList [] none {}
    refine ⟨fixed, result, fun kept => ?_⟩
    have noSchema : ({} : Catalog).Every Param.Plain := fun loaded none => nomatch none
    have carried := stand noSchema kept 1 "[B]".toList .top ['B'] rfl (by decide)
    cbv at carried
    cases carried
  · obtain ⟨fixed, result, kept, -⟩ :=
      fix_keeps_rows_iff_tags_stand "[A]\n[./b]\n[B]".toList [] none {}
    refine ⟨fixed, result, kept ?_⟩
    have rows : (Document.ofText "[A]\n[./b]\n[B]".toList []).rows =
        ["[A]".toList, "[./b]".toList, "[B]".toList] := by decide
    have edits : ((assess (.ofText "[A]\n[./b]\n[B]".toList []) none).run
          {}).1.diagnostics.filterMap Diagnostic.edit? =
        [⟨⟨2, 0⟩, ⟨2, 3⟩, .insertBefore "[../]\n[]\n".toList⟩,
          ⟨⟨2, 0⟩, ⟨2, 3⟩, .insertAfter "\n[]".toList⟩] := by cbv
    rw [rows, edits]
    intro row line level name here opened
    rcases row with _ | _ | _ | row
    · obtain rfl := Option.some.inj here
      rw [show (Line.read "[A]".toList).content = .openTop ['A'] by decide] at opened
      cases level <;> cases opened
      cbv
    · obtain rfl := Option.some.inj here
      rw [show (Line.read "[./b]".toList).content = .openSub ['b'] by decide] at opened
      cases level <;> cases opened
      cbv
    · obtain rfl := Option.some.inj here
      rw [show (Line.read "[B]".toList).content = .openTop ['B'] by decide] at opened
      cases level <;> cases opened
      cbv
    · cases here

end Analysis

end InputDeck
