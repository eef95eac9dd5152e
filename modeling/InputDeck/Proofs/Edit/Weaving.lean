import InputDeck.Proofs.Diagnostic.Bounds
import Mathlib.Data.List.Chain

/-!
Edits of spans that follow each other.  Applying them one by one, each to what the others have left,
comes to the same as cutting the text at their places and putting it together again with what they
write, in whatever order they are given.
-/

namespace InputDeck

open Text

theorem Position.ne_of_lt {a b : Position} (before : a < b) : a ≠ b := by
  rintro rfl
  simp only [Position.lt_def] at before
  omega

/-! Places of a text, counted from its start. -/

def Text.place (text : Text) (position : Position) : Nat :=
  (Edit.leading (splitOn '\n' text) position.row.toNat).length + position.column.toNat

section Place

variable {text : Text} {rows : List Text} {position next : Position}

theorem Edit.length_leading_mono (rows : List Text) {row later : Nat} (before : row ≤ later) :
    (leading rows row).length ≤ (leading rows later).length := by
  have start : rows.take row <+: rows.take later := List.take_prefix_take_left before
  obtain ⟨rest, whole⟩ := start
  rw [leading, leading, ← whole, List.flatMap_append, List.length_append]
  exact Nat.le_add_right _ _

theorem Edit.length_leading_succ {row : Nat} {line : Text} (here : rows[row]? = some line) :
    (leading rows (row + 1)).length = (leading rows row).length + line.length + 1 := by
  rw [leading, List.take_add_one, here, List.flatMap_append, List.length_append, leading]
  simp
  omega

theorem Edit.length_leading_splitOn (text : Text) :
    (leading (splitOn '\n' text) (splitOn '\n' text).length).length = text.length + 1 := by
  rw [leading, List.take_length, flatMap_append_singleton (splitOn_ne_nil '\n' text),
    joinWith_splitOn, List.length_append, List.length_singleton]

theorem Text.place_lt_leading (within : position.Within (splitOn '\n' text)) :
    text.place position <
      (Edit.leading (splitOn '\n' text) (position.row.toNat + 1)).length := by
  obtain ⟨row, column, line, here, bound, rfl⟩ := within
  have row_eq : (row : Int).toNat = row := Int.toNat_natCast row
  have column_eq : (column : Int).toNat = column := Int.toNat_natCast column
  rw [place]
  simp only [row_eq, column_eq]
  rw [Edit.length_leading_succ here]
  omega

theorem Text.place_mono (within : position.Within (splitOn '\n' text))
    (before : position ≤ next) :
    text.place position ≤ text.place next := by
  have bound := place_lt_leading within
  rcases before with above | ⟨level, left⟩
  · have lower : position.row.toNat + 1 ≤ next.row.toNat := by
      obtain ⟨row, column, line, -, -, rfl⟩ := within
      simp only at above ⊢
      omega
    have later := Edit.length_leading_mono (splitOn '\n' text) lower
    exact Nat.le_trans (Nat.le_trans (Nat.le_of_lt bound) later) (Nat.le_add_right _ _)
  · rw [place, place, level]
    omega

theorem Text.place_le_length (within : position.Within (splitOn '\n' text)) :
    text.place position ≤ text.length := by
  have bound := place_lt_leading within
  have inside : position.row.toNat + 1 ≤ (splitOn '\n' text).length := by
    obtain ⟨row, column, line, here, -, rfl⟩ := within
    exact (List.getElem?_eq_some_iff.mp here).1
  have whole := Edit.length_leading_mono (splitOn '\n' text) inside
  rw [Edit.length_leading_splitOn] at whole
  omega

theorem Edit.offset_eq_place (within : position.Within (splitOn '\n' text)) :
    offset (rowOffsets 0 (splitOn '\n' text)) position = .ok (text.place position : Int) := by
  obtain ⟨row, column, line, here, -, rfl⟩ := within
  have inside := (List.getElem?_eq_some_iff.mp here).1
  exact offset_eq (Nat.le_of_lt inside) column

end Place

/-- The text that a correction puts into a document. -/
def Correction.written : Correction → Text
  | .replace new | .insertBefore new | .insertAfter new => new

namespace Edit

/-- Where the text starts that an edit takes out, or where it writes if it takes out none. -/
def first (edit : Edit) : Position :=
  match edit.correction with
  | .replace _ | .insertBefore _ => edit.start
  | .insertAfter _ => edit.stop

/-- Where the text ends that an edit takes out, or where it writes if it takes out none. -/
def last (edit : Edit) : Position :=
  match edit.correction with
  | .replace _ | .insertAfter _ => edit.stop
  | .insertBefore _ => edit.start

/-- A text from a place on, with what some edits write in place of what they take out. -/
def weave (text : Text) (place : Nat) : List Edit → Text
  | [] => text.drop place
  | edit :: later =>
      text.extract place (text.place edit.first) ++ edit.correction.written ++
        weave text (text.place edit.last) later

structure Spans (rows : List Text) (edit : Edit) : Prop where
  ordered : edit.start ≤ edit.stop
  start : edit.start.Within rows
  stop : edit.stop.Within rows

/-- An edit ends before another one starts, or where it starts, and the other one is further on. -/
def Precedes (one next : Edit) : Prop :=
  one.start < next.start ∧ one.stop ≤ next.start

instance : Trans Precedes Precedes Precedes where
  trans {one next after} first second := by
    obtain ⟨before, apart⟩ := first
    obtain ⟨later, behind⟩ := second
    simp only [Precedes, Position.lt_def, Position.le_def] at *
    omega

namespace Spans

variable {rows : List Text} {edit next : Edit}

theorem first_within (spans : edit.Spans rows) : edit.first.Within rows := by
  unfold first
  split
  · exact spans.start
  · exact spans.start
  · exact spans.stop

theorem last_within (spans : edit.Spans rows) : edit.last.Within rows := by
  unfold last
  split
  · exact spans.stop
  · exact spans.stop
  · exact spans.start

theorem start_le_first (spans : edit.Spans rows) : edit.start ≤ edit.first := by
  unfold first
  split
  · exact Position.le_refl _
  · exact Position.le_refl _
  · exact spans.ordered

theorem first_le_last (spans : edit.Spans rows) : edit.first ≤ edit.last := by
  unfold first last
  cases edit.correction with
  | replace => exact spans.ordered
  | insertBefore => exact Position.le_refl _
  | insertAfter => exact Position.le_refl _

theorem last_le_stop (spans : edit.Spans rows) : edit.last ≤ edit.stop := by
  unfold last
  split
  · exact Position.le_refl _
  · exact Position.le_refl _
  · exact spans.ordered

theorem last_le_first (spans : edit.Spans rows) (nextSpans : next.Spans rows)
    (precedes : edit.Precedes next) : edit.last ≤ next.first :=
  Position.le_trans spans.last_le_stop (Position.le_trans precedes.2 nextSpans.start_le_first)

end Spans

variable {text : Text} {edit : Edit} {edits : List Edit}

theorem applyOne_eq (spans : edit.Spans (splitOn '\n' text)) (old : Text) :
    applyOne (rowOffsets 0 (splitOn '\n' text)) old edit =
      .ok (old.take (text.place edit.first) ++ edit.correction.written ++
        old.drop (text.place edit.last)) := by
  rw [applyOne, offset_eq_place spans.start, offset_eq_place spans.stop]
  unfold first last
  cases edit.correction with
  | replace new => exact congrArg Except.ok (splice_replace old new _ _)
  | insertBefore new => exact congrArg Except.ok (splice_insertBefore old new _ _)
  | insertAfter new => exact congrArg Except.ok (splice_insertAfter old new _ _)

/-- The last edit comes first.  Whatever the later edits have done, the text in front of a place
that none of them is before is still there. -/
theorem foldlM_reverse (spans : ∀ edit ∈ edits, edit.Spans (splitOn '\n' text))
    (apart : edits.Pairwise Precedes) {place : Nat} (within : place ≤ text.length)
    (ahead : ∀ edit ∈ edits, place ≤ text.place edit.first) :
    edits.reverse.foldlM (applyOne (rowOffsets 0 (splitOn '\n' text))) text =
      .ok (text.take place ++ weave text place edits) := by
  induction edits generalizing place with
  | nil => simp [weave, pure, Except.pure]
  | cons edit later ih =>
      obtain ⟨spansHere, spansLater⟩ := List.forall_mem_cons.mp spans
      obtain ⟨precedes, apartLater⟩ := List.pairwise_cons.mp apart
      have placeFirst : place ≤ text.place edit.first := ahead edit List.mem_cons_self
      have firstLast : text.place edit.first ≤ text.place edit.last :=
        place_mono spansHere.first_within spansHere.first_le_last
      have lastWithin : text.place edit.last ≤ text.length := place_le_length spansHere.last_within
      have lastAhead : ∀ next ∈ later, text.place edit.last ≤ text.place next.first := by
        intro next member
        exact place_mono spansHere.last_within
          (spansHere.last_le_first (spansLater next member) (precedes next member))
      have rest := ih spansLater apartLater lastWithin lastAhead
      let woven := weave text (text.place edit.last) later
      have front : (text.take (text.place edit.last) ++ woven).take (text.place edit.first) =
          text.take place ++ text.extract place (text.place edit.first) := by
        rw [List.take_append_of_le_length (by rw [List.length_take]; omega), List.take_take,
          Nat.min_eq_left firstLast, ← List.take_add, Nat.add_sub_of_le placeFirst]
      have back : (text.take (text.place edit.last) ++ woven).drop (text.place edit.last) =
          woven := by
        apply List.drop_left'
        rw [List.length_take, Nat.min_eq_left lastWithin]
      rw [List.reverse_cons, List.foldlM_append, rest]
      simp only [bind, Except.bind, List.foldlM_cons, List.foldlM_nil, applyOne_eq spansHere]
      rw [front, back, weave]
      simp [woven, pure, Except.pure]

theorem applyAll_eq_weave {given : List Edit} (same : given.Perm edits)
    (spans : ∀ edit ∈ edits, edit.Spans (splitOn '\n' text)) (apart : edits.Pairwise Precedes) :
    applyAll text given = .ok (weave text 0 edits) := by
  have sorted : lastFirst given = edits.reverse := by
    have backwards : edits.reverse.Pairwise (fun a b => b.start ≤ a.start) := by
      rw [List.pairwise_reverse]
      exact apart.imp fun precedes => Position.le_of_lt precedes.1
    have reordered : (lastFirst given).Perm edits.reverse :=
      (List.mergeSort_perm given _).trans (same.trans (List.reverse_perm edits).symm)
    have starts : (edits.reverse.map (·.start)).Nodup := by
      rw [List.map_reverse, List.nodup_reverse, List.Nodup, List.pairwise_map]
      exact apart.imp fun precedes => Position.ne_of_lt precedes.1
    refine eq_of_perm_of_keys ?_ starts reordered (pairwise_lastFirst given) backwards
    exact fun one other below above => Position.le_antisymm above below
  rw [applyAll, sorted, foldlM_reverse spans apart (Nat.zero_le _) fun _ _ => Nat.zero_le _]
  simp

end Edit

/-- Corrections of spans that follow each other are all made at the places that their spans have in
the text, and it does not matter in which order they are given. -/
theorem Text.correct_eq_weave {text : Text} {found : List Diagnostic} {edits : List Edit}
    (ordered : edits.Perm (found.filterMap Diagnostic.edit?))
    (spans : ∀ edit ∈ edits, edit.Spans (splitOn '\n' text))
    (successive : edits.IsChain Edit.Precedes) :
    text.correct found = .ok (Edit.weave text 0 edits) ∧
      ∀ others, others.Perm found → text.correct others = text.correct found := by
  have apart : edits.Pairwise Edit.Precedes := successive.pairwise
  have woven : text.correct found = .ok (Edit.weave text 0 edits) :=
    Edit.applyAll_eq_weave ordered.symm spans apart
  refine ⟨woven, fun others same => ?_⟩
  have again := (same.filterMap Diagnostic.edit?).trans ordered.symm
  rw [woven]
  exact Edit.applyAll_eq_weave again spans apart

def twoRows : Text :=
  "ab\ncd".toList

def touching : List Diagnostic := [
  { problem := .blankRun, start := ⟨1, 0⟩, stop := ⟨1, 1⟩,
    correction := some (.insertAfter ['Z']) },
  { problem := .unclosed, start := ⟨0, 0⟩, stop := ⟨1, 2⟩ },
  { problem := .blankRun, start := ⟨1, 1⟩, stop := ⟨1, 2⟩,
    correction := some (.insertBefore ['Y']) },
  { problem := .blankRun, start := ⟨0, 1⟩, stop := ⟨1, 0⟩, correction := some (.replace ['-']) }]

theorem correct_touching :
    ∃ edits : List Edit, edits.Perm (touching.filterMap Diagnostic.edit?) ∧
      (∀ edit ∈ edits, edit.Spans (splitOn '\n' twoRows)) ∧ edits.IsChain Edit.Precedes ∧
      twoRows.correct touching = .ok "a-cZYd".toList ∧
      ∀ others, others.Perm touching → twoRows.correct others = .ok "a-cZYd".toList := by
  let edits : List Edit := [
    ⟨⟨0, 1⟩, ⟨1, 0⟩, .replace ['-']⟩, ⟨⟨1, 0⟩, ⟨1, 1⟩, .insertAfter ['Z']⟩,
    ⟨⟨1, 1⟩, ⟨1, 2⟩, .insertBefore ['Y']⟩]
  have ordered : edits.Perm (touching.filterMap Diagnostic.edit?) := by decide
  have within : ∀ row column : Nat, row ≤ 1 → column ≤ 2 →
      Position.Within (splitOn '\n' twoRows) ⟨row, column⟩ := by
    intro row column bound inside
    match row, bound with
    | 0, _ => exact ⟨0, column, "ab".toList, rfl, inside, rfl⟩
    | 1, _ => exact ⟨1, column, "cd".toList, rfl, inside, rfl⟩
  have spans : ∀ edit ∈ edits, edit.Spans (splitOn '\n' twoRows) := by
    simp only [edits, List.forall_mem_cons]
    refine ⟨⟨by decide, within 0 1 ?_ ?_, within 1 0 ?_ ?_⟩,
      ⟨by decide, within 1 0 ?_ ?_, within 1 1 ?_ ?_⟩,
      ⟨by decide, within 1 1 ?_ ?_, within 1 2 ?_ ?_⟩, by simp⟩ <;> decide
  have successive : edits.IsChain Edit.Precedes := by
    simp only [edits, List.isChain_cons_cons, List.IsChain.singleton, Edit.Precedes]
    decide
  obtain ⟨woven, same⟩ := Text.correct_eq_weave ordered spans successive
  have corrected : twoRows.correct touching = .ok "a-cZYd".toList := woven.trans (by decide)
  exact ⟨edits, ordered, spans, successive, corrected,
    fun others permuted => (same others permuted).trans corrected⟩

end InputDeck
