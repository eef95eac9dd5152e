import InputDeck.Proofs.Edit.Order
import InputDeck.Proofs.Text.Rows

/-!
Edits as rewritings of a part of a text.  An edit counts its place from the start of the text, but
an edit of one row changes that row alone, whatever stands before and behind it; edits of two parts
that follow each other, those of the second part first, rewrite both.
-/

namespace InputDeck

namespace Edit

def leading (rows : List Text) (row : Nat) : Text :=
  (rows.take row).flatMap (· ++ ['\n'])

@[simp]
theorem leading_zero (rows : List Text) : leading rows 0 = [] := rfl

theorem leading_add {rows : List Text} {row : Nat} {group rest : List Text}
    (here : rows.drop row = group ++ rest) (some : group ≠ []) :
    leading rows (row + group.length) =
      leading rows row ++ Text.joinWith ['\n'] group ++ ['\n'] := by
  have taken : rows.take (row + group.length) = rows.take row ++ group := by
    rw [List.take_add, here, List.take_left]
  rw [leading, taken, List.flatMap_append, Text.flatMap_append_singleton some, leading,
    List.append_assoc]

theorem rowOffsets_getElem? (rows : List Text) (start row : Nat) (within : row ≤ rows.length) :
    (rowOffsets start rows)[row]? = some (start + (leading rows row).length) := by
  induction rows generalizing start row with
  | nil =>
      obtain rfl : row = 0 := Nat.le_zero.mp within
      rfl
  | cons text rows ih =>
      cases row with
      | zero => rfl
      | succ row =>
          have next := ih (start + text.length + 1) row (by simpa using within)
          simp only [rowOffsets, List.getElem?_cons_succ, next, leading, List.take_succ_cons,
            List.flatMap_cons, List.length_append, List.length_cons, List.length_nil]
          congr 1
          omega

theorem offset_eq {rows : List Text} {row : Nat} (within : row ≤ rows.length) (column : Nat) :
    offset (rowOffsets 0 rows) ⟨row, column⟩ =
      .ok (((leading rows row).length + column : Nat) : Int) := by
  have found := rowOffsets_getElem? rows 0 row within
  simp [offset, Slice.element, found, bind, Except.bind, pure, Except.pure]

theorem splice_replace (text new : Text) (start stop : Nat) :
    splice text start stop (.replace new) = text.take start ++ new ++ text.drop stop := by
  rw [splice, Slice.upTo_ofNat, Slice.since_ofNat]

theorem splice_insertBefore (text new : Text) (start stop : Nat) :
    splice text start stop (.insertBefore new) = text.take start ++ new ++ text.drop start := by
  rw [splice, Slice.upTo_ofNat, Slice.since_ofNat]

theorem splice_insertAfter (text new : Text) (start stop : Nat) :
    splice text start stop (.insertAfter new) = text.take stop ++ new ++ text.drop stop := by
  rw [splice, Slice.upTo_ofNat, Slice.since_ofNat]

theorem splice_append (before text : Text) (start stop : Nat) (correction : Correction) :
    splice (before ++ text) (before.length + start : Nat) (before.length + stop : Nat) correction =
      before ++ splice text start stop correction := by
  cases correction <;>
    simp only [splice_replace, splice_insertBefore, splice_insertAfter,
      List.take_length_add_append, List.drop_length_add_append, List.append_assoc]

theorem splice_append_right (text after : Text) {start stop : Nat}
    (startWithin : start ≤ text.length)
    (stopWithin : stop ≤ text.length) (correction : Correction) :
    splice (text ++ after) start stop correction = splice text start stop correction ++ after := by
  cases correction <;>
    simp only [splice_replace, splice_insertBefore, splice_insertAfter,
      List.take_append_of_le_length, List.drop_append_of_le_length, startWithin, stopWithin,
      List.append_assoc]

/-- The edits, applied in order, turn `old` into `new` behind `before`, whatever follows. -/
def Rewrites (rows : List Text) (before : Text) (edits : List Edit) (old new : Text) : Prop :=
  ∀ after : Text,
    edits.foldlM (applyOne (rowOffsets 0 rows)) (before ++ old ++ after) =
      .ok (before ++ new ++ after)

namespace Rewrites

variable {rows : List Text} {before : Text}

theorem nil (text : Text) : Rewrites rows before [] text text :=
  fun _ => rfl

theorem trans {first second : List Edit} {old middle new : Text}
    (one : Rewrites rows before first old middle) (two : Rewrites rows before second middle new) :
    Rewrites rows before (first ++ second) old new := by
  intro after
  rw [List.foldlM_append, one after]
  exact two after

theorem append {first second : List Edit} {old new nextOld nextNew : Text}
    (one : Rewrites rows before first old new)
    (two : Rewrites rows (before ++ old) second nextOld nextNew) :
    Rewrites rows before (second ++ first) (old ++ nextOld) (new ++ nextNew) := by
  intro after
  have later := two after
  have earlier := one (nextNew ++ after)
  simp only [List.append_assoc] at later earlier ⊢
  rw [List.foldlM_append, later]
  exact earlier

theorem single {row : Nat} (within : row ≤ rows.length) (edit : Edit) (old : Text)
    {start stop : Nat}
    (startsAt : edit.start = ⟨row, start⟩)
    (stopsAt : offset (rowOffsets 0 rows) edit.stop =
      .ok (((leading rows row).length + stop : Nat) : Int))
    (startWithin : start ≤ old.length) (stopWithin : stop ≤ old.length) :
    Rewrites rows (leading rows row) [edit] old (splice old start stop edit.correction) := by
  intro after
  have startOffset := offset_eq within start
  rw [← startsAt] at startOffset
  have once : applyOne (rowOffsets 0 rows) (leading rows row ++ (old ++ after)) edit =
      .ok (leading rows row ++ (splice old start stop edit.correction ++ after)) := by
    rw [applyOne, startOffset, stopsAt]
    simp only [bind, Except.bind, pure, Except.pure]
    rw [splice_append, splice_append_right _ _ startWithin stopWithin]
  rw [List.append_assoc, List.append_assoc, List.foldlM_cons, once]
  rfl

theorem behind {edits : List Edit} {gap old new : Text}
    (rewrites : Rewrites rows (before ++ gap) edits old new) :
    Rewrites rows before edits (gap ++ old) (gap ++ new) := by
  intro after
  simpa only [List.append_assoc] using rewrites after

theorem join {first second : List Edit} {row : Nat} (group groupNew : List Text)
    {next nextNew rest : List Text}
    (here : rows.drop row = group ++ rest) (groupSome : group ≠ []) (groupNewSome : groupNew ≠ [])
    (nextSome : next ≠ []) (nextNewSome : nextNew ≠ [])
    (one : Rewrites rows (leading rows row) first (Text.joinWith ['\n'] group)
      (Text.joinWith ['\n'] groupNew))
    (two : Rewrites rows (leading rows (row + group.length)) second (Text.joinWith ['\n'] next)
      (Text.joinWith ['\n'] nextNew)) :
    Rewrites rows (leading rows row) (second ++ first) (Text.joinWith ['\n'] (group ++ next))
      (Text.joinWith ['\n'] (groupNew ++ nextNew)) := by
  rw [leading_add here groupSome, List.append_assoc] at two
  rw [← List.append_assoc] at two
  rw [Text.joinWith_append groupSome nextSome, Text.joinWith_append groupNewSome nextNewSome]
  exact one.append two.behind

end Rewrites

theorem applyAll_eq {text new : Text} {edits : List Edit}
    (within : ∀ edit ∈ edits, ∃ row other, (Text.splitOn '\n' text)[row]? = some other ∧
      edit.start.row = (row : Nat))
    (rewritten : Rewrites (Text.splitOn '\n' text) []
      (descending (fun row => ofRow row (lastFirst edits)) 0 (Text.splitOn '\n' text).length)
      text new) : applyAll text edits = .ok new := by
  have inRows : ∀ edit ∈ lastFirst edits, ((0 : Nat) : Int) ≤ edit.start.row ∧
      edit.start.row < (0 : Nat) + (Text.splitOn '\n' text).length := by
    intro edit member
    obtain ⟨row, other, here, start⟩ := within edit (mem_lastFirst.mp member)
    have bound := (List.getElem?_eq_some_iff.mp here).1
    omega
  have result := rewritten []
  rw [← eq_descending (pairwise_lastFirst edits) inRows] at result
  simp only [List.nil_append, List.append_nil] at result
  exact result

end Edit

end InputDeck
