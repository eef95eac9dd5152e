import InputDeck.Layout
import InputDeck.Edit
import InputDeck.Proofs.Text.Rows

/-!
What the layout check finds, row by row.  The findings from a row on depend on the depth there and
on the blank rows that end there.
-/

namespace InputDeck

namespace Layout

/-- What is found from a row on, at a depth, with the ends of the blank rows just before it. -/
def foundFrom (width : Int) (row depth : Nat) (blanks : List Position) (rows : List Text) :
    List Diagnostic :=
  (State.run width { row, depth, blanks } rows).finish

theorem finish_run (width : Int) (state : State) (rows : List Text) :
    (state.run width rows).finish =
      state.found ++ foundFrom width state.row state.depth state.blanks rows := by
  induction rows generalizing state with
  | nil => simp [foundFrom, State.finish]
  | cons text rows ih =>
      rw [foundFrom, State.run_cons, State.run_cons, ih, ih]
      simp only [State.step]
      split <;> simp

theorem layoutDiagnostics_eq (doc : Document) (width : Int) :
    doc.layoutDiagnostics width = foundFrom width 0 0 [] doc.rows := rfl

@[simp]
theorem foundFrom_nil (width : Int) (row depth : Nat) (blanks : List Position) :
    foundFrom width row depth blanks [] = blankRun blanks := rfl

theorem foundFrom_blank {text : Text} (blank : (Line.read text).content.isBlank = true)
    (width : Int) (row depth : Nat) (blanks : List Position) (rows : List Text) :
    foundFrom width row depth blanks (text :: rows) =
      foundFrom width (row + 1) depth (blanks ++ [⟨row, text.length⟩]) rows := by
  rw [foundFrom, State.run_cons, finish_run]
  simp [State.step, blank]

def foundAt (width : Int) (row depth : Nat) (text : Text) : List Diagnostic :=
  match expectedLevel depth (Line.read text).content with
  | some level => misplaced width row level text
  | none => []

theorem foundFrom_content {text : Text} (content : (Line.read text).content.isBlank = false)
    (width : Int) (row depth : Nat) (blanks : List Position) (rows : List Text) :
    foundFrom width row depth blanks (text :: rows) =
      blankRun blanks ++ (foundAt width row depth text ++
        foundFrom width (row + 1) (depthAfter depth (Line.read text).content) [] rows) := by
  rw [foundFrom, State.run_cons, finish_run]
  simp only [State.step, content, Bool.false_eq_true, if_false, List.nil_append,
    List.append_assoc]
  rfl

theorem start_of_mem_foundAt {width : Int} {row depth : Nat} {text : Text}
    {diagnostic : Diagnostic} (member : diagnostic ∈ foundAt width row depth text) :
    diagnostic.start = ⟨row, 0⟩ := by
  unfold foundAt at member
  split at member
  · simp only [misplaced] at member
    split at member
    · cases member
    · rw [List.mem_singleton.mp member]
  · cases member

def blankEnds (row : Nat) : List Text → List Position
  | [] => []
  | text :: texts => ⟨row, text.length⟩ :: blankEnds (row + 1) texts

theorem blankEnds_append (row : Nat) (first second : List Text) :
    blankEnds row (first ++ second) =
      blankEnds row first ++ blankEnds (row + first.length) second := by
  induction first generalizing row with
  | nil => rfl
  | cons text texts ih =>
      rw [List.cons_append, blankEnds, blankEnds, ih, List.cons_append, List.length_cons,
        Nat.add_right_comm, Nat.add_assoc]

theorem blankEnds_concat (row : Nat) (texts : List Text) (text : Text) :
    blankEnds row (texts ++ [text]) =
      blankEnds row texts ++ [⟨((row + texts.length : Nat) : Int), text.length⟩] :=
  blankEnds_append row texts [text]

theorem getLast_blankEnds (row : Nat) {texts : List Text} (some : texts ≠ [])
    (endsSome : blankEnds row texts ≠ []) :
    (blankEnds row texts).getLast endsSome =
      ⟨((row + texts.length - 1 : Nat) : Int), (texts.getLast some).length⟩ := by
  induction texts generalizing row with
  | nil => exact absurd rfl some
  | cons text texts ih =>
      cases texts with
      | nil => rfl
      | cons next texts =>
          have rest := ih (row + 1) (by simp) (by simp [blankEnds])
          simp only [blankEnds, List.getLast_cons_cons, List.length_cons] at rest ⊢
          rw [rest]
          congr 2
          omega

theorem start_of_mem_blankRun {row : Nat} {texts : List Text} {diagnostic : Diagnostic}
    (member : diagnostic ∈ blankRun (blankEnds row texts)) :
    ∃ text rest, texts = text :: rest ∧ diagnostic.start = ⟨row, text.length⟩ := by
  match texts, member with
  | text :: next :: rest, member =>
      simp only [blankEnds, blankRun, List.mem_singleton] at member
      exact ⟨text, next :: rest, rfl, by rw [member]⟩

theorem row_of_mem_blankRun {row : Nat} {texts : List Text} {diagnostic : Diagnostic}
    (member : diagnostic ∈ blankRun (blankEnds row texts)) : diagnostic.start.row = row := by
  obtain ⟨text, rest, -, start⟩ := start_of_mem_blankRun member
  rw [start]

def findingStart (row : Nat) (text : Text) : Position :=
  ⟨row, if (Line.read text).content.isBlank then text.length else 0⟩

theorem exists_rows_of_mem_foundFrom {rows : List Text} {width : Int} (first : Nat) {depth : Nat}
    (blanks : List Text) {rest : List Text} {diagnostic : Diagnostic}
    (here : rows.drop first = blanks ++ rest)
    (areBlank : ∀ text ∈ blanks, (Line.read text).content.isBlank = true)
    (member : diagnostic ∈
      foundFrom width (first + blanks.length) depth (blankEnds first blanks) rest) :
    (∃ row texts later, first ≤ row ∧ rows.drop row = texts ++ later ∧
      (∀ text ∈ texts, (Line.read text).content.isBlank = true) ∧
      diagnostic ∈ blankRun (blankEnds row texts)) ∨
    ∃ row text level, first ≤ row ∧ rows[row]? = some text ∧
      (Line.read text).content.isBlank = false ∧ diagnostic ∈ foundAt width row level text := by
  induction rest generalizing first depth blanks with
  | nil => exact .inl ⟨first, blanks, [], Nat.le_refl first, here, areBlank, member⟩
  | cons text rest ih =>
      cases blank : (Line.read text).content.isBlank with
      | true =>
          rw [foundFrom_blank blank, ← blankEnds_concat] at member
          apply ih first (blanks ++ [text])
          · simpa using here
          · exact List.forall_mem_append.mpr ⟨areBlank, by simpa using blank⟩
          · simpa [Nat.add_assoc] using member
      | false =>
          have hereRow : rows.drop (first + blanks.length) = text :: rest := by
            rw [← List.drop_drop, here, List.drop_left]
          rw [foundFrom_content blank] at member
          simp only [List.mem_append] at member
          rcases member with before | at_row | later
          · exact .inl ⟨first, blanks, text :: rest, Nat.le_refl first, here, areBlank, before⟩
          · exact .inr ⟨first + blanks.length, text, depth, Nat.le_add_right _ _,
              Text.getElem?_of_drop hereRow, blank, at_row⟩
          · have below := ih (first + blanks.length + 1) []
              (Text.drop_succ_of_drop hereRow) (by simp) later
            have above : first ≤ first + blanks.length + 1 := by omega
            rcases below with
              ⟨row, texts, after, bound, found⟩ | ⟨row, found, level, bound, inRow⟩
            · exact .inl ⟨row, texts, after, Nat.le_trans above bound, found⟩
            · exact .inr ⟨row, found, level, Nat.le_trans above bound, inRow⟩

theorem start_of_mem_foundFrom {rows : List Text} {width : Int} (first : Nat) {depth : Nat}
    (blanks : List Text) {rest : List Text} {diagnostic : Diagnostic}
    (here : rows.drop first = blanks ++ rest)
    (areBlank : ∀ text ∈ blanks, (Line.read text).content.isBlank = true)
    (member : diagnostic ∈
      foundFrom width (first + blanks.length) depth (blankEnds first blanks) rest) :
    ∃ row text, first ≤ row ∧ rows[row]? = some text ∧
      diagnostic.start = findingStart row text := by
  rcases exists_rows_of_mem_foundFrom first blanks here areBlank member with
    ⟨row, texts, later, bound, split, areBlank, inside⟩ |
      ⟨row, text, level, bound, there, solid, inside⟩
  · obtain ⟨text, others, rfl, start⟩ := start_of_mem_blankRun inside
    refine ⟨row, text, bound, Text.getElem?_of_drop split, ?_⟩
    rw [start, findingStart, if_pos (areBlank text List.mem_cons_self)]
  · refine ⟨row, text, bound, there, ?_⟩
    rw [start_of_mem_foundAt inside, findingStart, solid]
    rfl

def StartInRows (rows : List Text) (found : List Diagnostic) : Prop :=
  ∀ diagnostic ∈ found, ∃ row text, rows[row]? = some text ∧
    diagnostic.start = findingStart row text

namespace StartInRows

variable {rows : List Text} {found : List Diagnostic} {edit : Edit}

theorem edit_start (starts : StartInRows rows found)
    (member : edit ∈ found.filterMap Diagnostic.edit?) :
    ∃ row text, rows[row]? = some text ∧ edit.start = findingStart row text := by
  obtain ⟨diagnostic, inside, corrected⟩ := List.mem_filterMap.mp member
  obtain ⟨correction, -, rfl⟩ := Option.map_eq_some_iff.mp corrected
  exact starts diagnostic inside

theorem edit_start_of_row (starts : StartInRows rows found)
    (member : edit ∈ found.filterMap Diagnostic.edit?) {row : Nat}
    (inRow : edit.start.row = row) : edit.start = findingStart row (rows.getD row []) := by
  obtain ⟨other, text, here, start⟩ := starts.edit_start member
  obtain rfl : other = row := by
    rw [start] at inRow
    exact Int.ofNat.inj inRow
  rw [start, List.getD_eq_getElem?_getD, here]
  rfl

end StartInRows

theorem startInRows_foundFrom (width : Int) (rows : List Text) :
    StartInRows rows (foundFrom width 0 0 [] rows) := by
  intro diagnostic member
  obtain ⟨row, text, -, here, start⟩ := start_of_mem_foundFrom 0 [] rfl (by simp) member
  exact ⟨row, text, here, start⟩

theorem mem_foundFrom {width : Int} {row depth : Nat} {blanks : List Position} {rows : List Text}
    {diagnostic : Diagnostic} (member : diagnostic ∈ foundFrom width row depth blanks rows) :
    (∃ ends, diagnostic ∈ blankRun ends) ∨
      ∃ row level text, diagnostic ∈ misplaced width row level text := by
  induction rows generalizing row depth blanks with
  | nil => exact .inl ⟨blanks, member⟩
  | cons text rows ih =>
      cases blank : (Line.read text).content.isBlank with
      | true =>
          rw [foundFrom_blank blank] at member
          exact ih member
      | false =>
          rw [foundFrom_content blank] at member
          simp only [List.mem_append] at member
          rcases member with before | at_row | later
          · exact .inl ⟨blanks, before⟩
          · unfold foundAt at at_row
            split at at_row
            · exact .inr ⟨row, _, text, at_row⟩
            · cases at_row
          · exact ih later

theorem replaces_of_mem_foundFrom {width : Int} {row depth : Nat} {blanks : List Position}
    {rows : List Text} {diagnostic : Diagnostic}
    (member : diagnostic ∈ foundFrom width row depth blanks rows) :
    diagnostic.kind = .layout ∧ ∃ new, diagnostic.correction = some (.replace new) := by
  rcases mem_foundFrom member with ⟨ends, inside⟩ | ⟨place, level, text, inside⟩
  · unfold blankRun at inside
    split at inside
    · rw [List.mem_singleton.mp inside]
      exact ⟨rfl, [], rfl⟩
    · cases inside
  · simp only [misplaced] at inside
    split at inside
    · cases inside
    · rw [List.mem_singleton.mp inside]
      exact ⟨rfl, _, rfl⟩

end Layout

end InputDeck
