import InputDeck.Proofs.Line.Value

/-!
The margins of a row.  White space in front of what a row says moves its columns and does nothing
else; white space behind it and a comment do nothing at all.
-/

namespace InputDeck

open Text

def Placed.shift (columns : Nat) (piece : Placed) : Placed :=
  { piece with column := piece.column + columns }

def Content.shift (columns : Nat) : Content → Content
  | .parameter name value => .parameter name (value.map (Placed.shift columns))
  | content => content

def Line.shift (columns : Nat) (line : Line) : Line :=
  ⟨line.content.shift columns, line.indent + columns, line.stop + columns⟩

namespace Content

variable (columns : Nat) (content : Content)

@[simp]
theorem reading_shift : (content.shift columns).reading = content.reading := by
  cases content with
  | parameter name value => cases value <;> rfl
  | openTop _ | closeTop | openSub _ | closeSub | comment | blank | other => rfl

@[simp]
theorem nameOffset_shift : (content.shift columns).nameOffset = content.nameOffset := by
  cases content <;> rfl

@[simp]
theorem value?_shift :
    (content.shift columns).value? = content.value?.map (Placed.shift columns) := by
  cases content <;> rfl

end Content

namespace Line

@[simp]
theorem nameColumn_shift (columns : Nat) (line : Line) :
    (line.shift columns).nameColumn = line.nameColumn + columns := by
  rw [nameColumn, nameColumn, shift, Content.nameOffset_shift, Nat.add_right_comm]

theorem shift_readTag (columns : Nat) (text : Text) :
    (readTag text).shift columns = readTag text := by
  unfold readTag
  split
  · rfl
  · split
    · rfl
    · split <;> rfl
    · rfl
    · rfl

theorem readParameter_add (columns column : Nat) (text : Text) :
    readParameter (column + columns) text = (readParameter column text).shift columns := by
  simp only [readParameter]
  split
  · split
    · rfl
    · split
      · rfl
      · simp only [Content.shift, Option.map_some, Placed.shift, Nat.add_right_comm]
  · rfl

theorem readContent_add (columns column : Nat) (text : Text) :
    readContent (column + columns) text = (readContent column text).shift columns := by
  unfold readContent
  split
  · exact (shift_readTag columns _).symm
  · exact readParameter_add columns column text

section Margins

variable {before text behind comment : Text}

theorem trimEnd_append (blank : ∀ c ∈ behind, isBlank c = true) (text : Text) :
    trimEnd (text ++ behind) = trimEnd text := by
  have reversed : ∀ c ∈ behind.reverse, isBlank c = true :=
    fun c member => blank c (List.mem_reverse.mp member)
  rw [trimEnd, trimEnd, dropEndWhile, dropEndWhile, List.reverse_append,
    List.dropWhile_append_of_pos reversed]

theorem uncommented_of_comment (marked : ∀ c ∈ comment.head?, c = '#') :
    uncommented comment = [] := by
  cases comment with
  | nil => rfl
  | cons c rest => simp [uncommented, marked c rfl]

theorem read_within_margins (tight : Tight text) (unmarked : '#' ∉ text)
    (indented : ∀ c ∈ before, isBlank c = true) (padded : ∀ c ∈ behind, isBlank c = true)
    (marked : ∀ c ∈ comment.head?, c = '#') :
    read (before ++ text ++ behind ++ comment) =
      ⟨readContent before.length text, before.length, before.length + text.length⟩ := by
  obtain ⟨c, rest, rfl⟩ := List.exists_cons_of_ne_nil tight.nonempty
  obtain ⟨first, last⟩ := trimBy_eq_self_iff.mp tight.trimmed
  rw [List.mem_cons, not_or] at unmarked
  have cut : uncommented (rest ++ behind ++ comment) = rest ++ behind := by
    rw [List.append_assoc, uncommented_append_of_unmarked unmarked.2, uncommented_append padded,
      uncommented_of_comment marked, List.append_nil]
  have ended : trimEnd rest = rest := by
    refine dropEndWhile_eq_self_iff.mpr fun d isLast => last d ?_
    rw [List.getLast?_cons, isLast]
    rfl
  have body : trimEnd (uncommented (rest ++ behind ++ comment)) = rest := by
    rw [cut, trimEnd_append padded, ended]
  have row : before ++ c :: rest ++ behind ++ comment =
      before ++ c :: (rest ++ behind ++ comment) := by
    simp only [List.append_assoc, List.cons_append]
  rw [row, read_text indented (first c rfl) (Ne.symm unmarked.1), body, List.length_cons,
    Nat.add_assoc]

/-- What stands in a row between white space, or between white space and a comment, is read as it is
read alone, with its columns moved by the white space in front. -/
theorem read_between_margins (tight : Tight text) (unmarked : '#' ∉ text)
    (indented : ∀ c ∈ before, isBlank c = true) (padded : ∀ c ∈ behind, isBlank c = true)
    (marked : ∀ c ∈ comment.head?, c = '#') :
    read (before ++ text ++ behind ++ comment) = (read text).shift before.length ∧
      (read (before ++ text ++ behind ++ comment)).content.reading = (read text).content.reading ∧
      (read (before ++ text ++ behind ++ comment)).nameColumn =
        (read text).nameColumn + before.length ∧
      (read (before ++ text ++ behind ++ comment)).content.value? =
        (read text).content.value?.map (Placed.shift before.length) := by
  have alone : read text = ⟨readContent 0 text, 0, text.length⟩ := by
    have bare := @read_within_margins [] text [] [] tight unmarked
    simpa using bare
  have moved : read (before ++ text ++ behind ++ comment) = (read text).shift before.length := by
    rw [read_within_margins tight unmarked indented padded marked, alone, shift, ← readContent_add,
      Nat.zero_add, Nat.add_comm text.length]
  refine ⟨moved, ?_, ?_, ?_⟩
  · rw [moved, shift, Content.reading_shift]
  · rw [moved, nameColumn_shift]
  · rw [moved, shift, Content.value?_shift]

theorem read_between_margins_parameter :
    Tight "active = 'u v'".toList ∧ '#' ∉ "active = 'u v'".toList ∧
    (∀ c ∈ "\t\u3000".toList, isBlank c = true) ∧ (∀ c ∈ " \t".toList, isBlank c = true) ∧
    (∀ c ∈ "# [] x = 1".toList.head?, c = '#') ∧
    read "active = 'u v'".toList =
      ⟨.parameter "active".toList (some ⟨"'u v'".toList, 9⟩), 0, 14⟩ ∧
    read "\t\u3000active = 'u v' \t# [] x = 1".toList =
      ⟨.parameter "active".toList (some ⟨"'u v'".toList, 11⟩), 2, 16⟩ := by
  have tight : Tight "active = 'u v'".toList := ⟨by decide, by decide +kernel⟩
  have unmarked : '#' ∉ "active = 'u v'".toList := by decide
  have indented : ∀ c ∈ "\t\u3000".toList, isBlank c = true :=
    List.all_eq_true.mp (by decide)
  have padded : ∀ c ∈ " \t".toList, isBlank c = true := List.all_eq_true.mp (by decide)
  have marked : ∀ c ∈ "# [] x = 1".toList.head?, c = '#' :=
    fun c first => (Option.some.inj first).symm
  have alone : read "active = 'u v'".toList =
      ⟨.parameter "active".toList (some ⟨"'u v'".toList, 9⟩), 0, 14⟩ := by decide +kernel
  refine ⟨tight, unmarked, indented, padded, marked, alone, ?_⟩
  have moved := (read_between_margins tight unmarked indented padded marked).1
  rw [alone] at moved
  exact Eq.trans (congrArg read (by decide +kernel)) (moved.trans (by decide +kernel))

end Margins

end Line

end InputDeck
