import InputDeck.Edit
import Mathlib.Data.List.Nodup

/-!
The order in which edits are applied: the rows from the last to the first, and within a row the
later start first; edits with one start keep the order in which they are given.
-/

namespace InputDeck

theorem Position.le_antisymm {a b : Position} (first : a ≤ b) (second : b ≤ a) : a = b := by
  cases a
  cases b
  simp only [Position.le_def, Position.mk.injEq] at *
  omega

namespace Edit

private theorem later_trans (a b c : Edit) (first : decide (b.start ≤ a.start) = true)
    (second : decide (c.start ≤ b.start) = true) : decide (c.start ≤ a.start) = true := by
  simp only [decide_eq_true_eq] at *
  exact Position.le_trans second first

private theorem later_total (a b : Edit) :
    (decide (b.start ≤ a.start) || decide (a.start ≤ b.start)) = true := by
  simpa using Position.le_total b.start a.start

theorem pairwise_lastFirst (edits : List Edit) :
    (lastFirst edits).Pairwise (fun a b => b.start ≤ a.start) := by
  have sorted := List.pairwise_mergeSort later_trans later_total edits
  simpa only [lastFirst, decide_eq_true_eq] using sorted

@[simp]
theorem mem_lastFirst {edit : Edit} {edits : List Edit} :
    edit ∈ lastFirst edits ↔ edit ∈ edits :=
  List.mem_mergeSort

theorem filter_mergeSort {α : Type} {le : α → α → Bool}
    (trans : ∀ a b c, le a b = true → le b c = true → le a c = true)
    (total : ∀ a b, (le a b || le b a) = true) {p : α → Bool}
    (same : ∀ a b, p a = true → p b = true → le a b = true) (list : List α) :
    (list.mergeSort le).filter p = list.filter p := by
  have sorted : (list.filter p).Pairwise (fun a b => le a b = true) := by
    rw [List.pairwise_filter]
    exact List.pairwise_of_forall same
  have kept : (list.filter p).Sublist (list.mergeSort le) :=
    List.sublist_mergeSort trans total sorted List.filter_sublist
  have within := kept.filter p
  rw [List.filter_filter] at within
  simp only [Bool.and_self] at within
  have lengths := ((List.mergeSort_perm list le).filter p).length_eq
  exact (within.eq_of_length lengths.symm).symm

theorem eq_of_perm_of_keys {α κ : Type} {key : α → κ} {le : α → α → Prop}
    (equal : ∀ a b, le a b → le b a → key a = key b) {first second : List α}
    (distinct : (second.map key).Nodup) (same : first.Perm second) (sorted : first.Pairwise le)
    (ordered : second.Pairwise le) : first = second := by
  refine same.eq_of_pairwise ?_ sorted ordered
  intro one other member otherMember before after
  exact List.inj_on_of_nodup_map distinct (same.subset member) otherMember
    (equal one other before after)

theorem filter_start_lastFirst (edits : List Edit) (start : Position) :
    (lastFirst edits).filter (fun edit => edit.start == start) =
      edits.filter (fun edit => edit.start == start) := by
  apply filter_mergeSort later_trans later_total
  intro a b first second
  rw [beq_iff_eq] at first second
  simpa [first, second] using Position.le_refl start

theorem filter_start_sortByStart (found : List Diagnostic) (start : Position) :
    (Diagnostic.sortByStart found).filter (fun diagnostic => diagnostic.start == start) =
      found.filter (fun diagnostic => diagnostic.start == start) := by
  apply filter_mergeSort
  · intro a b c first second
    simp only [decide_eq_true_eq] at *
    exact Position.le_trans first second
  · intro a b
    simpa using Position.le_total a.start b.start
  · intro a b first second
    rw [beq_iff_eq] at first second
    simpa [first, second] using Position.le_refl start

private theorem filter_start_filterMap (found : List Diagnostic) (start : Position) :
    (found.filterMap Diagnostic.edit?).filter (fun edit => edit.start == start) =
      (found.filter (fun diagnostic => diagnostic.start == start)).filterMap Diagnostic.edit? := by
  induction found with
  | nil => rfl
  | cons diagnostic rest ih =>
      cases corrected : diagnostic.edit? with
      | none =>
          rw [List.filterMap_cons_none corrected, ih, List.filter_cons]
          split
          · rw [List.filterMap_cons_none corrected]
          · rfl
      | some edit =>
          have start_eq : edit.start = diagnostic.start := by
            obtain ⟨correction, -, rfl⟩ := Option.map_eq_some_iff.mp corrected
            rfl
          rw [List.filterMap_cons_some corrected, List.filter_cons, List.filter_cons, start_eq, ih]
          split
          · rw [List.filterMap_cons_some corrected]
          · rfl

theorem filter_start_corrections (found : List Diagnostic) (start : Position) :
    (lastFirst ((Diagnostic.sortByStart found).filterMap Diagnostic.edit?)).filter
        (fun edit => edit.start == start) =
      (found.filterMap Diagnostic.edit?).filter (fun edit => edit.start == start) := by
  rw [filter_start_lastFirst, filter_start_filterMap, filter_start_sortByStart,
    filter_start_filterMap]

/-- The edits of the rows from `row` on, `count` in number, the last row first. -/
def descending (edits : Nat → List Edit) (row : Nat) : (count : Nat) → List Edit
  | 0 => []
  | count + 1 => descending edits (row + 1) count ++ edits row

theorem descending_congr {first second : Nat → List Edit} {row : Nat} (count : Nat)
    (same : ∀ next, row ≤ next → first next = second next) :
    descending first row count = descending second row count := by
  induction count generalizing row with
  | zero => rfl
  | succ count ih =>
      have rest := ih fun next (later : row + 1 ≤ next) => same next (by omega)
      rw [descending, descending, rest, same row (Nat.le_refl row)]

theorem descending_add (edits : Nat → List Edit) (row first second : Nat) :
    descending edits row (first + second) =
      descending edits (row + first) second ++ descending edits row first := by
  induction first generalizing row with
  | zero => simp [descending]
  | succ first ih =>
      rw [Nat.add_right_comm, descending, ih (row + 1), descending, List.append_assoc,
        Nat.add_assoc row 1 first, Nat.add_comm 1 first]

def ofRow (row : Nat) (edits : List Edit) : List Edit :=
  edits.filter (fun edit => edit.start.row == row)

theorem ofRow_corrections (row : Nat) (found : List Diagnostic) :
    ofRow row (found.filterMap Diagnostic.edit?) =
      (found.filter (fun diagnostic => diagnostic.start.row == (row : Int))).filterMap
        Diagnostic.edit? := by
  rw [ofRow, List.filter_filterMap, List.filterMap_filter]
  congr 1
  funext diagnostic
  cases correction : diagnostic.correction <;>
    by_cases here : diagnostic.start.row = row <;>
      simp [Diagnostic.edit?, correction, Option.filter, here]

theorem ofRow_eq_filter_start {edits : List Edit} {row : Nat} (column : Int)
    (same : ∀ edit ∈ edits, edit.start.row = row → edit.start = ⟨row, column⟩) :
    ofRow row edits = edits.filter (fun edit => edit.start == ⟨row, column⟩) := by
  apply List.filter_congr
  intro edit member
  by_cases here : edit.start.row = row
  · simp [same edit member here]
  · have other : edit.start ≠ ⟨row, column⟩ := fun equal => here (by rw [equal])
    rw [beq_eq_false_iff_ne.mpr here, beq_eq_false_iff_ne.mpr other]

theorem ofRow_lastFirst {edits : List Edit} {row : Nat} (column : Int)
    (same : ∀ edit ∈ edits, edit.start.row = row → edit.start = ⟨row, column⟩) :
    ofRow row (lastFirst edits) = ofRow row edits := by
  rw [ofRow_eq_filter_start column fun edit member => same edit (mem_lastFirst.mp member),
    filter_start_lastFirst, ofRow_eq_filter_start column same]

theorem eq_filter_append_filter {α : Type} {relation : α → α → Prop} {list : List α}
    (sorted : list.Pairwise relation) {p : α → Bool}
    (earlier : ∀ a b, relation a b → p b = true → p a = true) :
    list = list.filter p ++ list.filter (fun a => !p a) := by
  induction list with
  | nil => rfl
  | cons first rest ih =>
      rw [List.pairwise_cons] at sorted
      have split := ih sorted.2
      cases holds : p first with
      | true =>
          rw [List.filter_cons_of_pos holds, List.filter_cons_of_neg (by simp [holds]),
            List.cons_append, ← split]
      | false =>
          have none : rest.filter p = [] := by
            rw [List.filter_eq_nil_iff]
            intro other member later
            rw [earlier first other (sorted.1 other member) later] at holds
            cases holds
          have all : rest.filter (fun a => !p a) = rest := by
            rw [none, List.nil_append] at split
            exact split.symm
          rw [List.filter_cons_of_neg (by simp [holds]), none,
            List.filter_cons_of_pos (by simp [holds]), all, List.nil_append]

/-- The edits of a row in which none starts before a place: those that start behind it come first,
then those that start there. -/
theorem ofRow_eq_behind_append {edits : List Edit} {row : Nat} {column : Int}
    (sorted : edits.Pairwise (fun a b => b.start ≤ a.start))
    (least : ∀ edit ∈ edits, edit.start.row = row → ⟨row, column⟩ ≤ edit.start) :
    ofRow row edits =
      (ofRow row edits).filter (fun edit => decide (⟨row, column⟩ < edit.start)) ++
        edits.filter (fun edit => edit.start == ⟨row, column⟩) := by
  have inRow : (ofRow row edits).Pairwise (fun a b => b.start ≤ a.start) :=
    sorted.sublist List.filter_sublist
  have split := eq_filter_append_filter inRow
    (p := fun edit => decide ((⟨row, column⟩ : Position) < edit.start)) (by
      intro a b before later
      simp only [decide_eq_true_eq, Position.lt_def, Position.le_def] at *
      omega)
  have there : (ofRow row edits).filter (fun edit => !decide (⟨row, column⟩ < edit.start)) =
      edits.filter (fun edit => edit.start == ⟨row, column⟩) := by
    rw [ofRow, List.filter_filter]
    apply List.filter_congr
    intro edit member
    by_cases here : edit.start.row = row
    · have after := least edit member here
      rw [Bool.eq_iff_iff]
      simp only [here, beq_self_eq_true, Bool.and_true, Bool.not_eq_true',
        decide_eq_false_iff_not, beq_iff_eq, Position.not_lt]
      constructor
      · exact fun before => Position.le_antisymm before after
      · intro same
        rw [same]
        exact Position.le_refl _
    · have other : edit.start ≠ ⟨row, column⟩ := fun same => here (congrArg Position.row same)
      rw [beq_eq_false_iff_ne.mpr here, beq_eq_false_iff_ne.mpr other, Bool.and_false]
  rwa [there] at split

private theorem split_first_row {edits : List Edit} {row : Nat}
    (sorted : edits.Pairwise (fun a b => b.start ≤ a.start))
    (from_row : ∀ edit ∈ edits, (row : Int) ≤ edit.start.row) :
    edits =
      edits.filter (fun edit => decide ((row : Int) < edit.start.row)) ++ ofRow row edits := by
  have split := eq_filter_append_filter sorted
    (p := fun edit => decide ((row : Int) < edit.start.row)) (by
      intro a b before later
      rw [Position.le_def] at before
      simp only [decide_eq_true_eq] at *
      omega)
  have here : edits.filter (fun edit => !decide ((row : Int) < edit.start.row)) =
      ofRow row edits := by
    apply List.filter_congr
    intro edit member
    have bound := from_row edit member
    rw [Bool.eq_iff_iff]
    simp only [Bool.not_eq_true', decide_eq_false_iff_not, beq_iff_eq]
    omega
  rwa [here] at split

theorem eq_descending {edits : List Edit} {row count : Nat}
    (sorted : edits.Pairwise (fun a b => b.start ≤ a.start))
    (within : ∀ edit ∈ edits, (row : Int) ≤ edit.start.row ∧ edit.start.row < row + count) :
    edits = descending (fun next => ofRow next edits) row count := by
  induction count generalizing row edits with
  | zero =>
      cases edits with
      | nil => rfl
      | cons edit rest =>
          have bounds := within edit List.mem_cons_self
          omega
  | succ count ih =>
      let later := edits.filter (fun edit => decide ((row : Int) < edit.start.row))
      have laterRows : later = descending (fun next => ofRow next later) (row + 1) count := by
        apply ih (sorted.sublist List.filter_sublist)
        intro edit member
        obtain ⟨inside, after⟩ := List.mem_filter.mp member
        have bounds := within edit inside
        simp only [decide_eq_true_eq] at after
        omega
      have sameRows : ∀ next, row + 1 ≤ next → ofRow next later = ofRow next edits := by
        intro next after
        simp only [later, ofRow, List.filter_filter]
        apply List.filter_congr
        intro edit _
        by_cases here : edit.start.row = next
        · simp [here]
          omega
        · simp [here]
      rw [descending_congr count sameRows] at laterRows
      rw [descending, ← laterRows]
      exact split_first_row sorted (fun edit member => (within edit member).1)

end Edit

end InputDeck
