import InputDeck.Proofs.Edit.Weaving

/-!
Reading a document piece by piece.  What stands from a place on is the text between it and a later
place, and then what stands from there on, wherever the two places are in their rows or beyond them.
So pieces that adjoin make up the whole, and places that exist cut the text at their offsets.
-/

namespace InputDeck

open Text

namespace Slice

variable {α : Type}

@[simp]
theorem between_ofNat (items : List α) (start stop : Nat) :
    between items start stop = (items.take stop).drop start := by
  rw [between, boundary_ofNat, boundary_ofNat, ← List.take_eq_take_min]
  rcases Nat.le_total start items.length with inside | beyond
  · rw [Nat.min_eq_left inside]
  · have short : (items.take stop).length ≤ items.length := List.length_take_le' stop items
    rw [Nat.min_eq_right beyond, List.drop_eq_nil_of_le short,
      List.drop_eq_nil_of_le (Nat.le_trans short beyond)]

end Slice

/-- A place counted from the start of a document. -/
structure Position.Forward (position : Position) : Prop where
  row : 0 ≤ position.row
  column : 0 ≤ position.column

theorem Position.Forward.exists_eq {position : Position} (forward : position.Forward) :
    ∃ row column : Nat, position = ⟨row, column⟩ := by
  obtain ⟨row, column⟩ := position
  obtain ⟨upper, left⟩ := forward
  exact ⟨row.toNat, column.toNat, by rw [Int.toNat_of_nonneg upper, Int.toNat_of_nonneg left]⟩

theorem drop_take_append_drop {α : Type} (items : List α) {start stop : Nat}
    (ordered : start ≤ stop) :
    (items.take stop).drop start ++ items.drop stop = items.drop start := by
  calc
    (items.take stop).drop start ++ items.drop stop =
        (items.drop start).take (stop - start) ++ (items.drop start).drop (stop - start) := by
      rw [List.drop_take, List.drop_drop, Nat.add_sub_of_le ordered]
    _ = items.drop start := List.take_append_drop _ _

theorem eq_drop_take_of_append_drop {α : Type} {items between : List α} {start stop : Nat}
    (ordered : start ≤ stop) (split : between ++ items.drop stop = items.drop start) :
    between = (items.take stop).drop start := by
  rw [← drop_take_append_drop items ordered] at split
  exact List.append_cancel_right split

theorem Edit.leading_append_joinWith {rows : List Text} {row : Nat} (inside : row < rows.length) :
    leading rows row ++ joinWith ['\n'] (rows.drop row) = joinWith ['\n'] rows := by
  have some : rows.drop row ≠ [] := by simpa using inside
  have whole := List.take_append_drop row rows
  by_cases none : rows.take row = []
  · rw [none, List.nil_append] at whole
    rw [leading, none, whole]
    rfl
  · have joined : joinWith ['\n'] (rows.take row ++ rows.drop row) = _ := joinWith_append none some
    rw [whole] at joined
    rw [leading, flatMap_append_singleton none, joined, List.append_assoc, List.singleton_append]

namespace Document

/-- What stands in a document from a place on. -/
def rest (doc : Document) (row column : Nat) : Text :=
  match doc.rows.drop row with
  | [] => []
  | line :: below => line.drop column ++ below.flatMap ('\n' :: ·)

section Rest

variable {doc : Document} {row column : Nat} {line : Text} {below : List Text}

theorem rest_of_drop (here : doc.rows.drop row = line :: below) (column : Nat) :
    doc.rest row column = line.drop column ++ below.flatMap ('\n' :: ·) := by
  rw [rest, here]

theorem rest_of_beyond (beyond : doc.rows.length ≤ row) (column : Nat) :
    doc.rest row column = [] := by
  rw [rest, List.drop_eq_nil_of_le beyond]

theorem rowAt_of_drop (here : doc.rows.drop row = line :: below) : doc.rowAt row = .ok line := by
  simp [rowAt, Slice.element, getElem?_of_drop here]

theorem rest_ofText {text path : Text} (here : (splitOn '\n' text)[row]? = some line)
    (within : column ≤ line.length) :
    (ofText text path).rest row column =
      text.drop ((Edit.leading (splitOn '\n' text) row).length + column) := by
  obtain ⟨bound, found⟩ := List.getElem?_eq_some_iff.mp here
  have cut : (splitOn '\n' text).drop row = line :: (splitOn '\n' text).drop (row + 1) := by
    rw [List.drop_eq_getElem_cons bound, found]
  have below : (ofText text path).rest row column = _ := rest_of_drop cut column
  have whole : Edit.leading (splitOn '\n' text) row ++
      (line ++ ((splitOn '\n' text).drop (row + 1)).flatMap ('\n' :: ·)) = text := by
    rw [← joinWith_cons, ← cut]
    exact (Edit.leading_append_joinWith bound).trans (joinWith_splitOn '\n' text)
  rw [below]
  nth_rewrite 3 [← whole]
  rw [List.drop_length_add_append, List.drop_append_of_le_length within]

end Rest

section Range

variable {doc : Document} {row column next place : Nat} {line final : Text}
  {below inner further : List Text}

theorem inside_of_drop (here : doc.rows.drop row = line :: below) :
    ¬ (doc.rows.length : Int) ≤ row := by
  have bound := (List.getElem?_eq_some_iff.mp (getElem?_of_drop here)).1
  omega

theorem range_in_row (here : doc.rows.drop row = line :: below) (right : column ≤ place) :
    doc.range ⟨row, column⟩ ⟨row, place⟩ = .ok ((line.take place).drop column) := by
  have ordered : ¬ (⟨row, place⟩ : Position) < ⟨row, column⟩ :=
    Position.not_lt.mpr (.inr ⟨rfl, Int.ofNat_le.mpr right⟩)
  simp only [range, ordered, inside_of_drop here, if_false, if_true, rowAt_of_drop here]
  exact congrArg Except.ok (Slice.between_ofNat line column place)

theorem range_to_row (here : doc.rows.drop row = line :: (inner ++ final :: further)) :
    doc.range ⟨row, column⟩ ⟨(row + 1 + inner.length : Nat), place⟩ =
      .ok (joinWith ['\n'] (line.drop column :: inner ++ [final.take place])) := by
  have behind := drop_succ_of_drop here
  have there : doc.rows.drop (row + 1 + inner.length) = final :: further := by
    rw [← List.drop_drop, behind, List.drop_left]
  have rows : Slice.between doc.rows (row + 1) (row + 1 + inner.length : Nat) = inner := by
    have cut := Slice.between_ofNat doc.rows (row + 1) (row + 1 + inner.length)
    rw [List.drop_take, behind, Nat.add_sub_cancel_left, List.take_left] at cut
    exact cut
  have ordered : ¬ (⟨(row + 1 + inner.length : Nat), place⟩ : Position) < ⟨row, column⟩ :=
    Position.not_lt.mpr (.inl (by simp only; omega))
  have apart : ¬ (row : Int) = (row + 1 + inner.length : Nat) := by omega
  have last := Int.not_le.mp (inside_of_drop there)
  simp only [range, ordered, inside_of_drop here, apart, last, if_false, if_true,
    rowAt_of_drop here, rowAt_of_drop there, rows, Slice.since_ofNat, Slice.upTo_ofNat]
  rfl

theorem range_to_end (here : doc.rows.drop row = line :: below)
    (beyond : row + 1 + below.length ≤ next) :
    doc.range ⟨row, column⟩ ⟨next, place⟩ = .ok (joinWith ['\n'] (line.drop column :: below)) := by
  have behind := drop_succ_of_drop here
  have rows : Slice.between doc.rows (row + 1) next = below := by
    have cut := Slice.between_ofNat doc.rows (row + 1) next
    rw [List.drop_take, behind, List.take_of_length_le (by omega)] at cut
    exact cut
  have size := congrArg List.length here
  rw [List.length_drop, List.length_cons] at size
  have ordered : ¬ (⟨next, place⟩ : Position) < ⟨row, column⟩ :=
    Position.not_lt.mpr (.inl (by simp only; omega))
  have apart : ¬ (row : Int) = next := by omega
  have last : ¬ (next : Int) < doc.rows.length := by omega
  simp only [range, ordered, inside_of_drop here, apart, last, if_false, rowAt_of_drop here, rows,
    Slice.since_ofNat]
  rfl

theorem range_beyond (beyond : doc.rows.length ≤ row)
    (ordered : (⟨row, column⟩ : Position) ≤ ⟨next, place⟩) :
    doc.range ⟨row, column⟩ ⟨next, place⟩ = .ok [] := by
  rw [range, if_neg (Position.not_lt.mpr ordered), if_pos (Int.ofNat_le.mpr beyond)]

theorem exists_range (doc : Document) (ordered : (⟨row, column⟩ : Position) ≤ ⟨next, place⟩) :
    ∃ between, doc.range ⟨row, column⟩ ⟨next, place⟩ = .ok between ∧
      between ++ doc.rest next place = doc.rest row column := by
  have order := (Position.le_def _ _).mp ordered
  dsimp only at order
  cases here : doc.rows.drop row with
  | nil =>
      have beyond : doc.rows.length ≤ row := List.drop_eq_nil_iff.mp here
      have last : doc.rows.length ≤ next := by omega
      refine ⟨[], range_beyond beyond ordered, ?_⟩
      rw [rest_of_beyond beyond, rest_of_beyond last, List.append_nil]
  | cons line below =>
      have size := congrArg List.length here
      rw [List.length_drop, List.length_cons] at size
      rcases Nat.lt_trichotomy next row with above | rfl | later
      · omega
      · have right : column ≤ place := by omega
        refine ⟨_, range_in_row here right, ?_⟩
        rw [rest_of_drop here, rest_of_drop here, ← List.append_assoc,
          drop_take_append_drop line right]
      · rcases Nat.lt_or_ge next doc.rows.length with inside | beyond
        · obtain ⟨inner, final, further, rfl, rfl⟩ : ∃ inner final further,
              below = inner ++ final :: further ∧ next = row + 1 + inner.length := by
            have bound : next - (row + 1) < below.length := by omega
            refine ⟨below.take (next - (row + 1)), below[next - (row + 1)],
              below.drop (next - (row + 1) + 1), ?_, ?_⟩
            · rw [← List.drop_eq_getElem_cons bound, List.take_append_drop]
            · rw [List.length_take]
              omega
          have there : doc.rows.drop (row + 1 + inner.length) = final :: further := by
            rw [← List.drop_drop, drop_succ_of_drop here, List.drop_left]
          refine ⟨_, range_to_row here, ?_⟩
          have last : final.take place ++ (final.drop place ++ further.flatMap ('\n' :: ·)) =
              final ++ further.flatMap ('\n' :: ·) := by
            rw [← List.append_assoc, List.take_append_drop]
          rw [rest_of_drop here, rest_of_drop there]
          simp [last]
        · refine ⟨_, range_to_end here (by omega), ?_⟩
          rw [rest_of_drop here, rest_of_beyond beyond, joinWith_cons, List.append_nil]

theorem range_eq_between {text path : Text} {start stop : Position}
    (ordered : start ≤ stop) (first : start.Within (splitOn '\n' text))
    (last : stop.Within (splitOn '\n' text)) :
    (ofText text path).range start stop =
      .ok (Slice.between text (text.place start) (text.place stop)) := by
  have before := place_mono first ordered
  obtain ⟨row, column, line, here, left, rfl⟩ := first
  obtain ⟨next, place, final, there, right, rfl⟩ := last
  obtain ⟨between, read, split⟩ := exists_range (ofText text path) ordered
  rw [rest_ofText here left, rest_ofText there right] at split
  rw [read, Slice.between_ofNat]
  exact congrArg Except.ok (eq_drop_take_of_append_drop before split)

end Range

/-- What stands between two places is what stands between them and a place in the middle, first and
second part, wherever the places are; and between places of the document stands the text between
the offsets that corrections there would have. -/
theorem range_splits (text path : Text) {start middle stop : Position} (first : start ≤ middle)
    (second : middle ≤ stop)
    (forward : ∀ position ∈ [start, middle, stop], position.Forward) :
    (∃ before after, (ofText text path).range start middle = .ok before ∧
      (ofText text path).range middle stop = .ok after ∧
      (ofText text path).range start stop = .ok (before ++ after)) ∧
    (start.Within (ofText text path).rows → stop.Within (ofText text path).rows →
      ∃ here there, Edit.offset (Edit.rowOffsets 0 (splitOn '\n' text)) start = .ok here ∧
        Edit.offset (Edit.rowOffsets 0 (splitOn '\n' text)) stop = .ok there ∧
        (ofText text path).range start stop = .ok (Slice.between text here there)) := by
  constructor
  · obtain ⟨row, column, rfl⟩ := (forward start (by simp)).exists_eq
    obtain ⟨center, place, rfl⟩ := (forward middle (by simp)).exists_eq
    obtain ⟨last, stop, rfl⟩ := (forward stop (by simp)).exists_eq
    obtain ⟨before, readsBefore, splitBefore⟩ := exists_range (ofText text path) first
    obtain ⟨after, readsAfter, splitAfter⟩ := exists_range (ofText text path) second
    obtain ⟨whole, reads, split⟩ :=
      exists_range (ofText text path) (Position.le_trans first second)
    refine ⟨before, after, readsBefore, readsAfter, ?_⟩
    rw [← splitBefore, ← splitAfter, ← List.append_assoc] at split
    rw [reads, List.append_cancel_right split]
  · intro starts stops
    exact ⟨_, _, Edit.offset_eq_place starts, Edit.offset_eq_place stops,
      range_eq_between (Position.le_trans first second) starts stops⟩

theorem twoRows_range_splits :
    ∃ before after, (ofText twoRows unnamed).range ⟨0, 1⟩ ⟨0, 7⟩ = .ok before ∧
      (ofText twoRows unnamed).range ⟨0, 7⟩ ⟨1, 1⟩ = .ok after ∧ before ++ after = "b\nc".toList ∧
      Slice.between twoRows 1 4 = "b\nc".toList := by
  have forward : ∀ position ∈ [(⟨0, 1⟩ : Position), ⟨0, 7⟩, ⟨1, 1⟩], position.Forward := by
    simp only [List.forall_mem_cons]
    exact ⟨⟨by decide, by decide⟩, ⟨by decide, by decide⟩, ⟨by decide, by decide⟩, nofun⟩
  obtain ⟨⟨before, after, first, second, whole⟩, cut⟩ :=
    range_splits twoRows unnamed (by decide) (by decide) forward
  have joined : (ofText twoRows unnamed).range ⟨0, 1⟩ ⟨1, 1⟩ = .ok "b\nc".toList := by decide
  obtain ⟨here, there, start, stop, between⟩ := cut
    ⟨0, 1, "ab".toList, rfl, by decide, rfl⟩ ⟨1, 1, "cd".toList, rfl, by decide, rfl⟩
  obtain rfl : 1 = here := Except.ok.inj start
  obtain rfl : 4 = there := Except.ok.inj stop
  rw [joined] at whole between
  exact ⟨before, after, first, second, (Except.ok.inj whole).symm, (Except.ok.inj between).symm⟩

end Document

end InputDeck
