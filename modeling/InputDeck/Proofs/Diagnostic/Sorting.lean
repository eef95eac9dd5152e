import InputDeck.Proofs.Edit.Order
import Mathlib.Data.List.Forall2

/-!
Diagnostics in the order in which they start.  Leaving some out before sorting or after it comes to
the same, and lists that are related one by one stay so when they are sorted.
-/

namespace InputDeck

namespace Diagnostic

theorem eq_of_filter_start_eq {first second : List Diagnostic}
    (sortedFirst : first.Pairwise (fun a b => a.start ≤ b.start))
    (sortedSecond : second.Pairwise (fun a b => a.start ≤ b.start))
    (same : ∀ start, first.filter (fun diagnostic => diagnostic.start == start) =
      second.filter (fun diagnostic => diagnostic.start == start)) : first = second := by
  induction first generalizing second with
  | nil =>
      cases second with
      | nil => rfl
      | cons b second =>
          have here := same b.start
          simp at here
  | cons a first ih =>
      cases second with
      | nil =>
          have here := same a.start
          simp at here
      | cons b second =>
          rw [List.pairwise_cons] at sortedFirst sortedSecond
          have least : ∀ {one other : Diagnostic} {rest others : List Diagnostic},
              (∀ next ∈ others, other.start ≤ next.start) →
              (one :: rest).filter (fun diagnostic => diagnostic.start == one.start) =
                (other :: others).filter (fun diagnostic => diagnostic.start == one.start) →
              other.start ≤ one.start := by
            intro one other rest others after equal
            have member : one ∈ (other :: others).filter
                (fun diagnostic => diagnostic.start == one.start) := by
              rw [← equal]
              simp
            rcases List.mem_cons.mp (List.mem_filter.mp member).1 with rfl | later
            · exact Position.le_refl _
            · exact after one later
          have starts : a.start = b.start :=
            Position.le_antisymm (least sortedFirst.1 (same b.start).symm)
              (least sortedSecond.1 (same a.start))
          have heads := same a.start
          rw [List.filter_cons_of_pos (by simp), List.filter_cons_of_pos (by simp [starts])]
            at heads
          obtain ⟨rfl, -⟩ := List.cons.inj heads
          congr 1
          apply ih sortedFirst.2 sortedSecond.2
          intro start
          have equal := same start
          rw [List.filter_cons, List.filter_cons] at equal
          split at equal
          · exact (List.cons.inj equal).2
          · exact equal

private theorem earlier_trans (a b c : Diagnostic) (first : decide (a.start ≤ b.start) = true)
    (second : decide (b.start ≤ c.start) = true) : decide (a.start ≤ c.start) = true := by
  simp only [decide_eq_true_eq] at *
  exact Position.le_trans first second

private theorem earlier_total (a b : Diagnostic) :
    (decide (a.start ≤ b.start) || decide (b.start ≤ a.start)) = true := by
  simpa using Position.le_total a.start b.start

theorem pairwise_sortByStart (found : List Diagnostic) :
    (sortByStart found).Pairwise (fun a b => a.start ≤ b.start) := by
  have sorted := List.pairwise_mergeSort earlier_trans earlier_total found
  simpa only [sortByStart, decide_eq_true_eq] using sorted

theorem filter_sortByStart (p : Diagnostic → Bool) (found : List Diagnostic) :
    (sortByStart found).filter p = sortByStart (found.filter p) := by
  apply eq_of_filter_start_eq
  · exact (pairwise_sortByStart found).filter p
  · exact pairwise_sortByStart _
  · intro start
    rw [Edit.filter_start_sortByStart, List.filter_comm, Edit.filter_start_sortByStart,
      List.filter_comm]

theorem forall₂_sortByStart {relation : Diagnostic → Diagnostic → Prop}
    (start : ∀ a b, relation a b → a.start = b.start) {first second : List Diagnostic}
    (related : List.Forall₂ relation first second) :
    List.Forall₂ relation (sortByStart first) (sortByStart second) := by
  let pairs := first.zip second
  have whole := List.forall₂_iff_zip.mp related
  have firsts : pairs.map Prod.fst = first := List.map_fst_zip (Nat.le_of_eq whole.1)
  have seconds : pairs.map Prod.snd = second := List.map_snd_zip (Nat.le_of_eq whole.1.symm)
  let sorted := pairs.mergeSort (fun a b => decide (a.1.start ≤ b.1.start))
  have sortedFirsts : sorted.map Prod.fst = sortByStart first := by
    rw [← firsts]
    exact List.map_mergeSort fun _ _ _ _ => rfl
  have sortedSeconds : sorted.map Prod.snd = sortByStart second := by
    rw [← seconds]
    apply List.map_mergeSort
    intro a inA b inB
    rw [start _ _ (whole.2 inA), start _ _ (whole.2 inB)]
  rw [← sortedFirsts, ← sortedSeconds, List.forall₂_map_left_iff, List.forall₂_map_right_iff,
    List.forall₂_same]
  exact fun pair member => whole.2 (List.mem_mergeSort.mp member)

end Diagnostic

end InputDeck
