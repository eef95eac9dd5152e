import InputDeck.Proofs.Layout.Tidy

/-!
Correcting the layout once is enough: the check finds nothing in the corrected text.
-/

namespace InputDeck

theorem Content.Alike.expectedLevel_eq {first second : Content} (alike : Alike first second)
    (depth : Nat) :
    Layout.expectedLevel depth first = Layout.expectedLevel depth second := by
  cases alike <;> rfl

theorem Content.Alike.depthAfter_eq {first second : Content} (alike : Alike first second)
    (depth : Nat) :
    Layout.depthAfter depth first = Layout.depthAfter depth second := by
  cases alike <;> rfl

namespace Layout

open Edit

def laidOut (width : Int) (rows : List Text) : List Text :=
  tidy (some width) (fun _ text => text) 0 0 false rows

private theorem inserts_none (rows : List Text) :
    Inserts rows (fun _ => []) (fun _ text => text) where
  blank := fun _ _ _ _ => rfl
  rewrites := fun _ text _ _ => Rewrites.nil text
  space := fun _ _ _ => (List.prefix_iff_eq_take.mp (List.takeWhile_prefix _)).symm

theorem correct_layoutDiagnostics (text path : Text) (width : Int) :
    text.correct ((Document.ofText text path).layoutDiagnostics width) =
      .ok (Text.joinWith ['\n'] (laidOut width (Text.splitOn '\n' text))) := by
  let rows := Text.splitOn '\n' text
  let edits := (foundFrom width 0 0 [] rows).filterMap Diagnostic.edit?
  have starts := startInRows_foundFrom width rows
  have rowEdits : ∀ row, ofRow row (lastFirst edits) = ofRow row edits := by
    intro row
    apply ofRow_lastFirst (findingStart row (rows.getD row [])).column
    exact fun edit member here => starts.edit_start_of_row member here
  apply applyAll_eq
  · intro edit member
    obtain ⟨row, other, here, start⟩ := starts.edit_start member
    exact ⟨row, other, here, congrArg Position.row start⟩
  · have rewritten := rewrites_laid (inserts_none rows) width (fun row => ofRow row edits) 0 0 []
      rows rfl (by simp) (Text.splitOn_ne_nil '\n' text) (fun row _ => rfl)
    have joined : Text.joinWith ['\n'] rows = text := Text.joinWith_splitOn '\n' text
    simp only [← rowEdits, List.nil_append, joined] at rewritten
    exact rewritten

section Placed

open Text

theorem isBlank_of_mem_indentation {width : Int} {level : Nat} :
    ∀ c ∈ indentation width level, Text.isBlank c = true := by
  intro c member
  rw [List.eq_of_mem_replicate member]
  rfl

theorem reading_place (width : Int) (level : Option Nat) (text : Text) :
    (Line.read (place (some width) level (text.takeWhile Text.isBlank).length text)).content.reading =
      (Line.read text).content.reading := by
  cases level with
  | none => rfl
  | some level =>
      rw [place, drop_length_takeWhile, Line.reading_append isBlank_of_mem_indentation,
        Line.reading_trimStart]

theorem foundAt_place {text : Text} (content : (Line.read text).content.isBlank = false)
    (width : Int) (row depth : Nat) :
    foundAt width row depth (place (some width) (expectedLevel depth (Line.read text).content)
      (text.takeWhile Text.isBlank).length text) = [] := by
  have alike := Content.alike_of_reading
    (reading_place width (expectedLevel depth (Line.read text).content) text)
  unfold foundAt
  rw [alike.expectedLevel_eq]
  cases expectedLevel depth (Line.read text).content with
  | none => rfl
  | some level =>
      obtain ⟨c, rest, start, solid⟩ := Line.exists_solid_of_content content
      simp only [place, drop_length_takeWhile, start, misplaced]
      rw [takeWhile_isBlank_append isBlank_of_mem_indentation solid]
      simp

end Placed

theorem foundFrom_laid (width : Int) (rows : List Text) (row source depth : Nat) :
    foundFrom width row depth []
        (tidy (some width) (fun _ text => text) source depth false rows) = [] ∧
      ∀ blankEnd, foundFrom width row depth [blankEnd]
        (tidy (some width) (fun _ text => text) source depth true rows) = [] := by
  induction rows generalizing row source depth with
  | nil => exact ⟨rfl, fun _ => rfl⟩
  | cons text rows ih =>
      cases blank : (Line.read text).content.isBlank with
      | true =>
          constructor
          · simp only [tidy, blank, if_true, Bool.and_false, Bool.false_eq_true, if_false]
            rw [foundFrom_blank blank]
            exact (ih (row + 1) (source + 1) depth).2 _
          · intro blankEnd
            simp only [tidy, blank, if_true, Option.isSome_some, Bool.and_true]
            exact (ih row (source + 1) depth).2 blankEnd
      | false =>
          have alike := Content.alike_of_reading
            (reading_place width (expectedLevel depth (Line.read text).content) text)
          have content := alike.isBlank_eq.trans blank
          have later := (ih (row + 1) (source + 1) (depthAfter depth (Line.read text).content)).1
          constructor
          · simp only [tidy, blank, Bool.false_eq_true, if_false]
            rw [foundFrom_content content, foundAt_place blank, alike.depthAfter_eq, later]
            rfl
          · intro blankEnd
            simp only [tidy, blank, Bool.false_eq_true, if_false]
            rw [foundFrom_content content, foundAt_place blank, alike.depthAfter_eq, later]
            rfl

private theorem newline_free_tidy {width : Int} {rows : List Text}
    (free : ∀ text ∈ rows, '\n' ∉ text) (row depth : Nat) (afterBlank : Bool) :
    ∀ text ∈ tidy (some width) (fun _ text => text) row depth afterBlank rows, '\n' ∉ text := by
  induction rows generalizing row depth afterBlank with
  | nil =>
      intro text member
      cases member
  | cons text rows ih =>
      have later := ih (fun other member => free other (List.mem_cons_of_mem text member))
      have here := free text List.mem_cons_self
      intro new member
      simp only [tidy] at member
      split at member
      · split at member
        · exact later _ _ _ new member
        · rcases List.mem_cons.mp member with rfl | rest
          · exact here
          · exact later _ _ _ new rest
      · rcases List.mem_cons.mp member with rfl | rest
        · unfold place
          split
          · next width level =>
              intro newline
              rcases List.mem_append.mp newline with space | kept
              · exact absurd (List.eq_of_mem_replicate space) (by decide)
              · exact here (List.mem_of_mem_drop kept)
          · exact here
        · exact later _ _ _ new rest

theorem splitOn_laidOut (width : Int) (text : Text) :
    Text.splitOn '\n' (Text.joinWith ['\n'] (laidOut width (Text.splitOn '\n' text))) =
      laidOut width (Text.splitOn '\n' text) := by
  apply Text.splitOn_joinWith
  · exact tidy_ne_nil _ _ _ _ (Text.splitOn_ne_nil '\n' text)
  · exact newline_free_tidy (fun _ member => Text.not_mem_of_mem_splitOn member) 0 0 false

theorem layoutDiagnostics_after_correction (text path : Text) (width : Int) :
    ∃ fixed : Text,
      text.correct ((Document.ofText text path).layoutDiagnostics width) = .ok fixed ∧
        (Document.ofText fixed path).layoutDiagnostics width = [] ∧
        fixed.correct ((Document.ofText fixed path).layoutDiagnostics width) = .ok fixed := by
  refine ⟨_, correct_layoutDiagnostics text path width, ?_⟩
  have clean : (Document.ofText (Text.joinWith ['\n'] (laidOut width (Text.splitOn '\n' text)))
      path).layoutDiagnostics width = [] := by
    rw [layoutDiagnostics_eq, Document.ofText, splitOn_laidOut]
    exact (foundFrom_laid width _ 0 0 0).1
  rw [clean]
  exact ⟨rfl, by simp [Text.correct, applyAll, lastFirst, pure, Except.pure]⟩

end Layout

end InputDeck
