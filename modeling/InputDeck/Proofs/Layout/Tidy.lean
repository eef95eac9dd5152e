import InputDeck.Proofs.Edit.Order
import InputDeck.Proofs.Edit.Rewriting
import InputDeck.Proofs.Layout.Findings
import InputDeck.Proofs.Line.Reading

/-!
The rows that the corrections of the layout leave.  Every row gets the white space of its level,
and of blank rows that follow each other the first one stays.  Other edits may change a row as well,
provided that they leave alone the white space it starts with.
-/

namespace InputDeck

namespace Layout

open Edit

/-- A text with the white space of its level, which takes the place of the first `space`
characters. -/
def place (width : Option Int) (level : Option Nat) (space : Nat) (text : Text) : Text :=
  match width, level with
  | some width, some level => indentation width level ++ text.drop space
  | _, _ => text

/-- The rows after the corrections.  Each row that is not blank is first changed by `change`;
without a width there are no corrections of the layout. -/
def tidy (width : Option Int) (change : Nat → Text → Text) :
    (row depth : Nat) → (afterBlank : Bool) → List Text → List Text
  | _, _, _, [] => []
  | row, depth, afterBlank, text :: rest =>
      let content := (Line.read text).content
      if content.isBlank then
        if width.isSome && afterBlank then
          tidy width change (row + 1) depth true rest
        else
          text :: tidy width change (row + 1) depth true rest
      else
        place width (expectedLevel depth content) (text.takeWhile Text.isBlank).length
            (change row text) ::
          tidy width change (row + 1) (depthAfter depth content) false rest

theorem tidy_ne_nil (width : Option Int) (change : Nat → Text → Text) (row depth : Nat)
    {rows : List Text} (some : rows ≠ []) : tidy width change row depth false rows ≠ [] := by
  cases rows with
  | nil => exact absurd rfl some
  | cons text rest =>
      simp only [tidy, Bool.and_false, Bool.false_eq_true, if_false]
      split <;> simp

section Rewriting

variable {rows : List Text}

private theorem ofRow_eq_self {row : Nat} {found : List Diagnostic}
    (here : ∀ diagnostic ∈ found, diagnostic.start.row = row) :
    ofRow row (found.filterMap Diagnostic.edit?) = found.filterMap Diagnostic.edit? := by
  rw [ofRow, List.filter_eq_self]
  intro edit member
  obtain ⟨diagnostic, inside, corrected⟩ := List.mem_filterMap.mp member
  obtain ⟨correction, -, rfl⟩ := Option.map_eq_some_iff.mp corrected
  simpa using here diagnostic inside

private theorem ofRow_eq_nil {row : Nat} {found : List Diagnostic}
    (elsewhere : ∀ diagnostic ∈ found, diagnostic.start.row ≠ row) :
    ofRow row (found.filterMap Diagnostic.edit?) = [] := by
  rw [ofRow, List.filter_eq_nil_iff]
  intro edit member
  obtain ⟨diagnostic, inside, corrected⟩ := List.mem_filterMap.mp member
  obtain ⟨correction, -, rfl⟩ := Option.map_eq_some_iff.mp corrected
  simpa using elsewhere diagnostic inside

theorem rewrites_foundAt {row : Nat} (within : row ≤ rows.length) (width : Int) (depth : Nat)
    {text changed : Text}
    (space : changed.take (text.takeWhile Text.isBlank).length = text.takeWhile Text.isBlank) :
    Rewrites rows (leading rows row)
      ((foundAt width row depth text).filterMap Diagnostic.edit?) changed
      (place (some width) (expectedLevel depth (Line.read text).content)
        (text.takeWhile Text.isBlank).length changed) := by
  unfold foundAt place
  cases expectedLevel depth (Line.read text).content with
  | none => exact Rewrites.nil changed
  | some level =>
      simp only [misplaced]
      split
      · next same =>
          have unchanged : indentation width level ++
              changed.drop (text.takeWhile Text.isBlank).length = changed := by
            calc
              _ = changed.take (text.takeWhile Text.isBlank).length ++
                  changed.drop (text.takeWhile Text.isBlank).length := by
                rw [space, same]
              _ = changed := List.take_append_drop _ changed
          rw [unchanged]
          exact Rewrites.nil changed
      · have enough : (text.takeWhile Text.isBlank).length ≤ changed.length := by
          have lengths := congrArg List.length space
          rw [List.length_take] at lengths
          omega
        let edit : Edit := ⟨⟨row, 0⟩, ⟨row, (text.takeWhile Text.isBlank).length⟩,
          .replace (indentation width level)⟩
        have starts : edit.start = ⟨row, (0 : Nat)⟩ := rfl
        have one := Rewrites.single within edit changed starts (offset_eq within _)
          (Nat.zero_le _) enough
        rw [splice_replace, List.take_zero, List.nil_append] at one
        exact one

theorem rewrites_blankRun {row : Nat} {texts rest : List Text}
    (here : rows.drop row = texts ++ rest) (some : texts ≠ []) :
    Rewrites rows (leading rows row)
      ((blankRun (blankEnds row texts)).filterMap Diagnostic.edit?)
      (Text.joinWith ['\n'] texts) (Text.joinWith ['\n'] (texts.take 1)) := by
  match texts, some, here with
  | [text], _, _ => exact Rewrites.nil _
  | text :: next :: texts, some, here =>
      have rowsLeft : rows.length - row = (text :: next :: texts).length + rest.length := by
        rw [← List.length_drop, here, List.length_append]
      let last := (text :: next :: texts).getLast some
      let others := (text :: next :: texts).dropLast
      have split : text :: next :: texts = others ++ [last] :=
        (List.dropLast_concat_getLast some).symm
      have others_some : others ≠ [] := by simp [others]
      have others_length : others.length = texts.length + 1 := by simp [others]
      have stops : (blankEnds (row + 1) (next :: texts)).getLast (by simp [blankEnds]) =
          ⟨((row + others.length : Nat) : Int), last.length⟩ := by
        have ends := getLast_blankEnds row some (by simp [blankEnds])
        simp only [blankEnds, List.getLast_cons_cons, List.length_cons] at ends
        simp only [blankEnds]
        rw [ends, others_length]
        rfl
      have edits : (blankRun (blankEnds row (text :: next :: texts))).filterMap Diagnostic.edit? =
          [⟨⟨row, text.length⟩, ⟨((row + others.length : Nat) : Int), last.length⟩,
            .replace []⟩] :=
        congrArg (fun stop => [Edit.mk ⟨row, text.length⟩ stop (.replace [])]) stops
      have length : (Text.joinWith ['\n'] (text :: next :: texts)).length =
          (Text.joinWith ['\n'] others).length + 1 + last.length := by
        rw [split, Text.joinWith_append others_some (by simp)]
        simp [Text.joinWith]
        omega
      have offset_stop :
          offset (rowOffsets 0 rows) ⟨((row + others.length : Nat) : Int), last.length⟩ =
          .ok (((leading rows row).length +
            (Text.joinWith ['\n'] (text :: next :: texts)).length : Nat) : Int) := by
        rw [offset_eq (by simp only [List.length_cons] at rowsLeft; omega),
          leading_add (here.trans (by rw [split, List.append_assoc])) others_some, length]
        congr 2
        simp only [List.length_append, List.length_singleton]
        omega
      have within : row ≤ rows.length := by
        simp only [List.length_cons] at rowsLeft
        omega
      let edit : Edit := ⟨⟨row, text.length⟩, ⟨((row + others.length : Nat) : Int), last.length⟩,
        .replace []⟩
      have starts : edit.start = ⟨row, (text.length : Nat)⟩ := rfl
      have one := Rewrites.single within edit _ starts offset_stop (by simp) (Nat.le_refl _)
      rw [splice_replace, List.drop_length, List.append_nil, List.append_nil] at one
      rw [edits]
      simpa [edit] using one

structure Inserts (rows : List Text) (inserts : Nat → List Edit) (change : Nat → Text → Text) :
    Prop where
  blank : ∀ row text, rows[row]? = some text →
    (Line.read text).content.isBlank = true → inserts row = []
  rewrites : ∀ row text, rows[row]? = some text →
    (Line.read text).content.isBlank = false →
      Rewrites rows (leading rows row) (inserts row) text (change row text)
  space : ∀ row text, rows[row]? = some text →
    (change row text).take (text.takeWhile Text.isBlank).length = text.takeWhile Text.isBlank

variable {inserts edits : Nat → List Edit} {change : Nat → Text → Text}

theorem rewrites_unlaid (inserted : Inserts rows inserts change) {row : Nat} {rest : List Text}
    (here : rows.drop row = rest) (some : rest ≠ []) (depth : Nat) (afterBlank : Bool) :
    Rewrites rows (leading rows row) (descending inserts row rest.length)
      (Text.joinWith ['\n'] rest)
      (Text.joinWith ['\n'] (tidy none change row depth afterBlank rest)) := by
  induction rest generalizing row depth afterBlank with
  | nil => exact absurd rfl some
  | cons text rest ih =>
      have found := Text.getElem?_of_drop here
      have one : ∃ new depth' blank', Rewrites rows (leading rows row) (inserts row)
            (Text.joinWith ['\n'] [text]) (Text.joinWith ['\n'] [new]) ∧
          tidy none change row depth afterBlank (text :: rest) =
            new :: tidy none change (row + 1) depth' blank' rest := by
        cases blank : (Line.read text).content.isBlank with
        | true =>
            refine ⟨text, depth, true, ?_, by simp [tidy, blank]⟩
            rw [inserted.blank row text found blank]
            exact Rewrites.nil _
        | false =>
            refine ⟨change row text, depthAfter depth (Line.read text).content, false, ?_,
              by simp [tidy, blank, place]⟩
            simpa using inserted.rewrites row text found blank
      obtain ⟨new, depth', blank', rewritten, tidied⟩ := one
      rw [tidied]
      cases rest with
      | nil => exact rewritten
      | cons next rest =>
          have later := ih (Text.drop_succ_of_drop here) (by simp) depth' blank'
          have tidySome : tidy none change (row + 1) depth' blank' (next :: rest) ≠ [] := by
            simp only [tidy, Option.isSome_none, Bool.false_and, Bool.false_eq_true, if_false]
            split <;> simp
          exact Rewrites.join [text] [new] here
            (by simp) (by simp) (by simp) tidySome rewritten later

def layoutEdits (found : List Diagnostic) (row : Nat) : List Edit :=
  ofRow row (found.filterMap Diagnostic.edit?)

theorem layoutEdits_append (first second : List Diagnostic) (row : Nat) :
    layoutEdits (first ++ second) row = layoutEdits first row ++ layoutEdits second row := by
  simp [layoutEdits, ofRow]

private theorem layoutEdits_blankRun {first row : Nat} {blanks : List Text}
    (behind : first + blanks.length ≤ row) :
    layoutEdits (blankRun (blankEnds first blanks)) row = [] := by
  apply ofRow_eq_nil
  intro diagnostic member
  obtain ⟨text, others, rfl, start⟩ := start_of_mem_blankRun member
  rw [List.length_cons] at behind
  rw [start]
  simp only
  omega

private theorem layoutEdits_foundAt {width : Int} {found depth row : Nat} {text : Text}
    (other : row ≠ found) : layoutEdits (foundAt width found depth text) row = [] := by
  apply ofRow_eq_nil
  intro diagnostic member
  rw [start_of_mem_foundAt member]
  simp only
  omega

private theorem layoutEdits_foundFrom {width : Int} {first depth row : Nat} {rest : List Text}
    (here : rows.drop first = rest) (before : row < first) :
    layoutEdits (foundFrom width first depth [] rest) row = [] := by
  apply ofRow_eq_nil
  intro diagnostic member
  obtain ⟨found, text, after, -, start⟩ := start_of_mem_foundFrom first [] here (by simp) member
  rw [start, findingStart]
  simp only
  omega

private theorem descending_eq_first {row count : Nat} (positive : 0 < count)
    (later : ∀ next, row < next → next < row + count → edits next = []) :
    descending edits row count = edits row := by
  obtain ⟨rest, rfl⟩ := Nat.exists_eq_succ_of_ne_zero (Nat.pos_iff_ne_zero.mp positive)
  have none : ∀ start count, row < start → start + count ≤ row + rest.succ →
      descending edits start count = [] := by
    intro start count
    induction count generalizing start with
    | zero => intros; rfl
    | succ count ih =>
        intro after bound
        rw [descending, ih (start + 1) (by omega) (by omega), later start after (by omega)]
        rfl
  rw [descending, none (row + 1) rest (by omega) (by omega)]
  rfl

private theorem rewrites_content (inserted : Inserts rows inserts change) {row : Nat} {text : Text}
    {rest : List Text} (here : rows.drop row = text :: rest)
    (content : (Line.read text).content.isBlank = false) (width : Int) (depth : Nat)
    (editsHere : edits row =
      inserts row ++ (foundAt width row depth text).filterMap Diagnostic.edit?)
    (later : rest ≠ [] → Rewrites rows (leading rows (row + 1))
      (descending edits (row + 1) rest.length) (Text.joinWith ['\n'] rest)
      (Text.joinWith ['\n'] (tidy (some width) change (row + 1)
        (depthAfter depth (Line.read text).content) false rest))) (afterBlank : Bool) :
    Rewrites rows (leading rows row) (descending edits row (text :: rest).length)
      (Text.joinWith ['\n'] (text :: rest))
      (Text.joinWith ['\n'] (tidy (some width) change row depth afterBlank (text :: rest))) := by
  have found := Text.getElem?_of_drop here
  have within : row ≤ rows.length := by
    have bound := (List.getElem?_eq_some_iff.mp found).1
    omega
  let new := place (some width) (expectedLevel depth (Line.read text).content)
    (text.takeWhile Text.isBlank).length (change row text)
  have one : Rewrites rows (leading rows row) (edits row) (Text.joinWith ['\n'] [text])
      (Text.joinWith ['\n'] [new]) := by
    rw [editsHere]
    simpa using (inserted.rewrites row text found content).trans
      (rewrites_foundAt within width depth (inserted.space row text found))
  have tidied : tidy (some width) change row depth afterBlank (text :: rest) =
      new :: tidy (some width) change (row + 1) (depthAfter depth (Line.read text).content)
        false rest := by
    simp [tidy, content, new]
  rw [tidied]
  cases rest with
  | nil => exact one
  | cons next rest =>
      have nextSome : tidy (some width) change (row + 1) (depthAfter depth (Line.read text).content)
          false (next :: rest) ≠ [] :=
        tidy_ne_nil _ _ _ _ (List.cons_ne_nil next rest)
      exact Rewrites.join [text] [new] here
        (by simp) (by simp) (by simp) nextSome one (later (by simp))

private theorem rewrites_blanks (inserted : Inserts rows inserts change)
    (edits : Nat → List Edit) {first : Nat}
    {blanks rest : List Text} (here : rows.drop first = blanks ++ rest)
    (areBlank : ∀ text ∈ blanks, (Line.read text).content.isBlank = true) (some : blanks ≠ [])
    (editsHere : ∀ row, first ≤ row → row < first + blanks.length →
      edits row = inserts row ++ layoutEdits (blankRun (blankEnds first blanks)) row) :
    Rewrites rows (leading rows first) (descending edits first blanks.length)
      (Text.joinWith ['\n'] blanks) (Text.joinWith ['\n'] (blanks.take 1)) := by
  have positive := List.length_pos_iff.mpr some
  have noInserts : ∀ row, first ≤ row → row < first + blanks.length → inserts row = [] := by
    intro row from_first before
    have found : blanks[row - first]? = Option.some (blanks.get ⟨row - first, by omega⟩) :=
      List.getElem?_eq_getElem (by omega)
    have inRows : (blanks ++ rest)[row - first]? =
        Option.some (blanks.get ⟨row - first, by omega⟩) := by
      rw [List.getElem?_append_left (by omega), found]
    rw [← here, List.getElem?_drop, Nat.add_sub_cancel' from_first] at inRows
    exact inserted.blank row _ inRows (areBlank _ (List.mem_of_getElem? found))
  have onlyFirst : descending edits first blanks.length = edits first := by
    apply descending_eq_first positive
    intro row after before
    rw [editsHere row (Nat.le_of_lt after) before, noInserts row (Nat.le_of_lt after) before]
    apply ofRow_eq_nil
    intro diagnostic member
    rw [row_of_mem_blankRun member]
    omega
  rw [onlyFirst, editsHere first (Nat.le_refl first) (by omega),
    noInserts first (Nat.le_refl first) (by omega), layoutEdits,
    ofRow_eq_self (fun diagnostic member => row_of_mem_blankRun member)]
  exact rewrites_blankRun here some

theorem rewrites_laid (inserted : Inserts rows inserts change) (width : Int)
    (edits : Nat → List Edit) (first depth : Nat) (blanks rest : List Text)
    (here : rows.drop first = blanks ++ rest)
    (areBlank : ∀ text ∈ blanks, (Line.read text).content.isBlank = true)
    (some : blanks ++ rest ≠ [])
    (editsFrom : ∀ row, first ≤ row → edits row = inserts row ++
      layoutEdits
        (foundFrom width (first + blanks.length) depth (blankEnds first blanks) rest) row) :
    Rewrites rows (leading rows first) (descending edits first (blanks ++ rest).length)
      (Text.joinWith ['\n'] (blanks ++ rest))
      (Text.joinWith ['\n'] (blanks.take 1 ++
        tidy (Option.some width) change (first + blanks.length) depth (!blanks.isEmpty) rest)) := by
  induction rest generalizing first depth blanks with
  | nil =>
      rw [List.append_nil] at some
      simp only [tidy, List.append_nil]
      exact rewrites_blanks inserted edits here areBlank some
        (fun row from_first _ => editsFrom row from_first)
  | cons text rest ih =>
      cases blank : (Line.read text).content.isBlank with
      | true =>
          have step := ih first depth (blanks ++ [text])
            (by simpa using here)
            (List.forall_mem_append.mpr ⟨areBlank, by simpa using blank⟩)
            (by simp)
            (by
              intro row from_first
              rw [blankEnds_concat, List.length_append, List.length_singleton, ← Nat.add_assoc,
                ← foundFrom_blank blank]
              exact editsFrom row from_first)
          cases blanks with
          | nil => simpa [tidy, blank] using step
          | cons head others => simpa [tidy, blank, Nat.add_assoc] using step
      | false =>
          simp only [foundFrom_content blank, layoutEdits_append] at editsFrom
          have hereRow : rows.drop (first + blanks.length) = text :: rest := by
            rw [← List.drop_drop, here, List.drop_left]
          have nextRow := Text.drop_succ_of_drop hereRow
          have hereEdits : edits (first + blanks.length) = inserts (first + blanks.length) ++
              (foundAt width (first + blanks.length) depth text).filterMap Diagnostic.edit? := by
            rw [editsFrom _ (Nat.le_add_right first _), layoutEdits_blankRun (Nat.le_refl _),
              layoutEdits_foundFrom nextRow (Nat.lt_succ_self _), List.nil_append, List.append_nil,
              layoutEdits,
              ofRow_eq_self (fun diagnostic member => by rw [start_of_mem_foundAt member])]
          have content := rewrites_content inserted hereRow blank width depth hereEdits
            (fun restSome => by
              apply ih (first + blanks.length + 1) _ [] nextRow (by simp) restSome
              intro row after
              rw [editsFrom row (by omega), layoutEdits_blankRun (by omega),
                layoutEdits_foundAt (by omega)]
              rfl) (!blanks.isEmpty)
          by_cases someBlank : blanks = []
          · subst someBlank
            exact content
          · have run := rewrites_blanks inserted edits here areBlank someBlank
              (fun row from_first before => by
                rw [editsFrom row from_first, layoutEdits_foundAt (by omega),
                  layoutEdits_foundFrom nextRow (by omega), List.append_nil, List.append_nil])
            rw [List.length_append, descending_add]
            refine Rewrites.join blanks (blanks.take 1) here someBlank ?_ (by simp) ?_ run content
            · simpa using someBlank
            · simp [tidy, blank]

end Rewriting

end Layout

end InputDeck
