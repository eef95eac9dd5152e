import InputDeck.Proofs.Edit.Rewriting
import InputDeck.Proofs.Line.Openings

/-!
Edits that write rows into a row.  They leave alone the white space that the row starts with, and
where the text they write cannot be taken for a tag they open no blocks.
-/

namespace InputDeck

namespace Edit

open Text

def onRow (text : Text) (edit : Edit) : Text :=
  splice text edit.start.column edit.stop.column edit.correction

/-- The edits that write rows into a row that is not blank: closing tags in front of a tag, the
parameters of a block behind its opening tag, and closing tags behind the row. -/
inductive Insertion (plain : Prop) (row : Nat) (text : Text) : Edit → Prop
  | before (stop : Nat) (body : Text) (within : stop ≤ text.length) (shut : openings body = 0)
      (tagged : (Line.read text).content = .closeTop ∨ Line.opens text = true) :
      Insertion plain row text
        ⟨⟨row, (text.takeWhile isBlank).length⟩, ⟨row, stop⟩, .insertBefore (body ++ ['\n'])⟩
  | header (level : Level) (name body : Text)
      (opened : (Line.read text).content = level.opening name) (guards : plain → Guards body) :
      Insertion plain row text
        ⟨⟨row, (text.takeWhile isBlank).length⟩,
          ⟨row, ((text.takeWhile isBlank).length + (level.tag name).length : Nat)⟩,
          .insertAfter ('\n' :: body)⟩
  | tail (body : Text) (guards : Guards body)
      (unclosed : (Line.read text).content ≠ .closeTop) :
      Insertion plain row text ⟨⟨row, (0 : Nat)⟩, ⟨row, text.length⟩, .insertAfter ('\n' :: body)⟩

theorem length_le_of_opening {level : Level} {name text : Text}
    (opened : (Line.read text).content = level.opening name) :
    (text.takeWhile isBlank).length + (level.tag name).length ≤ text.length := by
  rw [Line.content_eq_opening_iff] at opened
  have split := congrArg List.length (eq_takeWhile_append_trimStart text)
  rw [List.length_append] at split
  have within := opened.2.length_le
  omega

namespace Insertion

variable {plain : Prop} {row : Nat} {text old : Text} {edit : Edit}

theorem exists_place (inserted : Insertion plain row text edit) :
    ∃ (place : Nat) (new : Text), (text.takeWhile isBlank).length ≤ place ∧ place ≤ text.length ∧
      ∀ old, edit.onRow old = old.take place ++ new ++ old.drop place := by
  have space := length_takeWhile_le text
  cases inserted with
  | before stop body within shut tagged =>
      exact ⟨_, _, Nat.le_refl _, space, fun old => splice_insertBefore old _ _ stop⟩
  | header level name body opened guards =>
      exact ⟨_, _, Nat.le_add_right _ _, length_le_of_opening opened,
        fun old => splice_insertAfter old _ _ _⟩
  | tail body guards unclosed =>
      exact ⟨_, _, space, Nat.le_refl _, fun old => splice_insertAfter old _ 0 _⟩

theorem length_le (inserted : Insertion plain row text edit) (old : Text) :
    old.length ≤ (edit.onRow old).length := by
  obtain ⟨place, new, -, -, result⟩ := inserted.exists_place
  rw [result]
  simp only [List.length_append, List.length_take, List.length_drop]
  omega

theorem space_prefix (inserted : Insertion plain row text edit)
    (space : text.takeWhile isBlank <+: old) : text.takeWhile isBlank <+: edit.onRow old := by
  obtain ⟨place, new, after, -, result⟩ := inserted.exists_place
  rw [result, List.append_assoc]
  have kept : text.takeWhile isBlank <+: old.take place :=
    List.prefix_take_iff.mpr ⟨space, after⟩
  exact kept.trans (List.prefix_append _ _)

theorem rewrites {rows : List Text} (inserted : Insertion plain row text edit)
    (within : row ≤ rows.length) (long : text.length ≤ old.length) :
    Rewrites rows (leading rows row) [edit] old (edit.onRow old) := by
  have space := length_takeWhile_le text
  cases inserted with
  | before stop body stopWithin shut tagged =>
      exact Rewrites.single within _ old rfl (offset_eq within stop) (by omega) (by omega)
  | header level name body opened guards =>
      have bound := length_le_of_opening opened
      exact Rewrites.single within _ old rfl (offset_eq within _) (by omega) (by omega)
  | tail body guards unclosed =>
      exact Rewrites.single within _ old rfl (offset_eq within _) (by omega) long

theorem openings_le (inserted : Insertion plain row text edit) (holds : plain)
    (spaceFree : '\n' ∉ text.takeWhile isBlank) (space : text.takeWhile isBlank <+: old) :
    openings (edit.onRow old) ≤ openings old := by
  cases inserted with
  | before stop body within shut tagged =>
      obtain ⟨rest, rfl⟩ := space
      have blank := isBlank_of_mem_takeWhile text
      have result : onRow (text.takeWhile isBlank ++ rest)
            ⟨⟨row, (text.takeWhile isBlank).length⟩, ⟨row, stop⟩, .insertBefore (body ++ ['\n'])⟩ =
          text.takeWhile isBlank ++ body ++ '\n' :: rest := by
        rw [onRow, splice_insertBefore, List.take_left, List.drop_left]
        simp
      rw [result, openings_append_newline, openings_append_left blank spaceFree,
        openings_append_left blank spaceFree, shut, Nat.zero_add]
  | header level name body opened guards =>
      rw [onRow, splice_insertAfter]
      have bound := (guards holds).openings_insert_le
        (old.take ((text.takeWhile isBlank).length + (level.tag name).length))
        (old.drop ((text.takeWhile isBlank).length + (level.tag name).length))
      rwa [List.take_append_drop] at bound
  | tail body guards unclosed =>
      rw [onRow, splice_insertAfter]
      have bound := guards.openings_insert_le (old.take text.length) (old.drop text.length)
      rwa [List.take_append_drop] at bound

end Insertion

/-! All edits of one row, in order. -/

section Row

variable {plain : Prop} {row : Nat} {text old : Text} {edits : List Edit}

theorem rewrites_foldl {rows : List Text}
    (inserted : ∀ edit ∈ edits, Insertion plain row text edit) (within : row ≤ rows.length)
    (long : text.length ≤ old.length) :
    Rewrites rows (leading rows row) edits old (edits.foldl onRow old) := by
  induction edits generalizing old with
  | nil => exact Rewrites.nil old
  | cons edit edits ih =>
      have first := inserted edit List.mem_cons_self
      have rest := ih (fun other member => inserted other (List.mem_cons_of_mem edit member))
        (Nat.le_trans long (first.length_le old))
      exact (first.rewrites within long).trans rest

theorem space_prefix_foldl (inserted : ∀ edit ∈ edits, Insertion plain row text edit)
    (space : text.takeWhile isBlank <+: old) :
    text.takeWhile isBlank <+: edits.foldl onRow old := by
  induction edits generalizing old with
  | nil => exact space
  | cons edit edits ih =>
      have first := inserted edit List.mem_cons_self
      exact ih (fun other member => inserted other (List.mem_cons_of_mem edit member))
        (first.space_prefix space)

theorem openings_foldl_le (inserted : ∀ edit ∈ edits, Insertion plain row text edit)
    (holds : plain) (spaceFree : '\n' ∉ text.takeWhile isBlank)
    (space : text.takeWhile isBlank <+: old) :
    openings (edits.foldl onRow old) ≤ openings old := by
  induction edits generalizing old with
  | nil => exact Nat.le_refl _
  | cons edit edits ih =>
      have first := inserted edit List.mem_cons_self
      have rest := ih (fun other member => inserted other (List.mem_cons_of_mem edit member))
        (first.space_prefix space)
      exact Nat.le_trans rest (first.openings_le holds spaceFree space)

theorem openings_written_le (inserted : ∀ edit ∈ edits, Insertion plain row text edit)
    (holds : plain) (oneRow : '\n' ∉ text) :
    openings (edits.foldl onRow text) ≤ if Line.opens text then 1 else 0 := by
  rw [← openings_of_free oneRow]
  exact openings_foldl_le inserted holds (not_mem_takeWhile oneRow) (List.takeWhile_prefix _)

end Row

end Edit

end InputDeck
