import InputDeck.Line
import Mathlib.Data.List.TakeWhile

/-!
How a row is read.  A row is blank, or a comment behind white space, or a text behind white space;
the white space in front decides about columns only.
-/

namespace InputDeck

namespace Text

theorem trimStart_append {space : Text} (blank : ∀ c ∈ space, isBlank c = true) (text : Text) :
    trimStart (space ++ text) = trimStart text :=
  List.dropWhile_append_of_pos blank

theorem trimStart_cons_of_solid {c : Char} (solid : isBlank c = false) (rest : Text) :
    trimStart (c :: rest) = c :: rest := by
  simp [trimStart, solid]

theorem trimStart_of_blank {space : Text} (blank : ∀ c ∈ space, isBlank c = true) :
    trimStart space = [] :=
  List.dropWhile_eq_nil_iff.mpr blank

theorem trimEnd_of_blank {space : Text} (blank : ∀ c ∈ space, isBlank c = true) :
    trimEnd space = [] := by
  have all : space.reverse.dropWhile isBlank = [] :=
    List.dropWhile_eq_nil_iff.mpr (fun c member => blank c (List.mem_reverse.mp member))
  rw [trimEnd, dropEndWhile, all, List.reverse_nil]

theorem trimEnd_append_cons {c : Char} (solid : isBlank c = false) (first rest : Text) :
    trimEnd (first ++ c :: rest) = first ++ c :: trimEnd rest := by
  rw [trimEnd, trimEnd, dropEndWhile, dropEndWhile, List.reverse_append, List.reverse_cons,
    List.append_assoc, List.dropWhile_append]
  split
  · next none => simp [solid, List.isEmpty_iff.mp none]
  · simp

theorem eq_takeWhile_append_trimStart (row : Text) :
    row = row.takeWhile isBlank ++ trimStart row :=
  List.takeWhile_append_dropWhile.symm

theorem drop_length_takeWhile (row : Text) :
    row.drop (row.takeWhile isBlank).length = trimStart row := by
  calc
    row.drop (row.takeWhile isBlank).length =
        (row.takeWhile isBlank ++ trimStart row).drop (row.takeWhile isBlank).length := by
      rw [← eq_takeWhile_append_trimStart]
    _ = trimStart row := List.drop_left

theorem isBlank_of_mem_takeWhile (row : Text) :
    ∀ c ∈ row.takeWhile isBlank, isBlank c = true :=
  fun _ member => List.mem_takeWhile_imp member

theorem not_mem_takeWhile {c : Char} {row : Text} (free : c ∉ row) : c ∉ row.takeWhile isBlank :=
  fun member => free ((List.takeWhile_sublist _).subset member)

theorem length_takeWhile_le (row : Text) : (row.takeWhile isBlank).length ≤ row.length :=
  (List.takeWhile_sublist _).length_le

theorem takeWhile_isBlank_append {space : Text} (blank : ∀ c ∈ space, isBlank c = true)
    {c : Char} (solid : isBlank c = false) (rest : Text) :
    (space ++ c :: rest).takeWhile isBlank = space := by
  rw [List.takeWhile_append_of_pos blank]
  simp [solid]

end Text

namespace Line

open Text

theorem uncommented_append {space : Text} (blank : ∀ c ∈ space, isBlank c = true) (text : Text) :
    uncommented (space ++ text) = space ++ uncommented text := by
  apply List.takeWhile_append_of_pos
  intro c member
  have notMark : c ≠ '#' := by
    rintro rfl
    exact absurd (blank '#' member) (by decide)
  simpa using notMark

theorem read_blank {row : Text} (blank : ∀ c ∈ row, isBlank c = true) :
    read row = ⟨.blank, 0, 0⟩ := by
  have body : uncommented row = row := by
    simpa [uncommented] using uncommented_append blank []
  have whole : trim row = [] := by
    change trimEnd (trimStart row) = []
    rw [trimStart_of_blank blank]
    rfl
  simp only [read, body, trimEnd_of_blank blank, whole]
  rfl

theorem read_comment {space : Text} (blank : ∀ c ∈ space, isBlank c = true) (rest : Text) :
    read (space ++ '#' :: rest) =
      ⟨.comment, space.length, (trimEnd (space ++ '#' :: rest)).length⟩ := by
  have solid : isBlank '#' = false := by decide
  have body : uncommented (space ++ '#' :: rest) = space := by
    rw [uncommented_append blank]
    simp [uncommented]
  have start : trimStart (space ++ '#' :: rest) = '#' :: rest := by
    rw [trimStart_append blank, trimStart_cons_of_solid solid]
  have whole : trim (space ++ '#' :: rest) = '#' :: trimEnd rest := by
    change trimEnd (trimStart (space ++ '#' :: rest)) = _
    rw [start]
    exact trimEnd_append_cons solid [] rest
  have width : (space ++ '#' :: rest).length - ('#' :: rest).length = space.length := by
    simp
  simp only [read, body, trimEnd_of_blank blank, whole, start, width]
  rfl

theorem read_text {space : Text} (blank : ∀ c ∈ space, isBlank c = true) {c : Char}
    (solid : isBlank c = false) (notMark : c ≠ '#') (rest : Text) :
    read (space ++ c :: rest) =
      ⟨readContent space.length (c :: trimEnd (uncommented rest)), space.length,
        space.length + (trimEnd (uncommented rest)).length + 1⟩ := by
  have body : trimEnd (uncommented (space ++ c :: rest)) =
      space ++ c :: trimEnd (uncommented rest) := by
    rw [uncommented_append blank, ← trimEnd_append_cons solid]
    simp [uncommented, notMark]
  have text : trimStart (space ++ c :: trimEnd (uncommented rest)) =
      c :: trimEnd (uncommented rest) := by
    rw [trimStart_append blank, trimStart_cons_of_solid solid]
  have width : (space ++ c :: trimEnd (uncommented rest)).length -
      (c :: trimEnd (uncommented rest)).length = space.length := by
    simp
  simp only [read, body, text, width]
  simp [Nat.add_assoc]

inductive Shape : Text → Prop
  | blank {row : Text} (blank : ∀ c ∈ row, isBlank c = true) : Shape row
  | comment {space : Text} (blank : ∀ c ∈ space, isBlank c = true) (rest : Text) :
      Shape (space ++ '#' :: rest)
  | text {space : Text} (blank : ∀ c ∈ space, isBlank c = true) {c : Char}
      (solid : isBlank c = false) (notMark : c ≠ '#') (rest : Text) :
      Shape (space ++ c :: rest)

theorem shape (row : Text) : Shape row := by
  have space : ∀ c ∈ row.takeWhile isBlank, isBlank c = true :=
    isBlank_of_mem_takeWhile row
  have split := eq_takeWhile_append_trimStart row
  cases start : trimStart row with
  | nil =>
      rw [start, List.append_nil] at split
      exact .blank (split ▸ space)
  | cons c rest =>
      have solid : isBlank c = false := by
        have kept := List.head?_dropWhile_not isBlank row
        rw [← trimStart, start] at kept
        simpa using kept
      rw [start] at split
      rw [split]
      by_cases mark : c = '#'
      · rw [mark]
        exact .comment space rest
      · exact .text space solid mark rest

end Line

/-- What a row says apart from its columns: its label, and the name and the value it gives. -/
def Content.reading (content : Content) : String × Option Text × Option Text :=
  (content.label, content.name?, content.value?.map (·.text))

namespace Content

/-- Contents that differ at most in the column of a value. -/
inductive Alike : Content → Content → Prop
  | same (content : Content) : Alike content content
  | parameter (name : Text) {first second : Option Placed}
      (values : first.map (·.text) = second.map (·.text)) :
      Alike (.parameter name first) (.parameter name second)

theorem alike_of_reading {first second : Content} (same : first.reading = second.reading) :
    Alike first second := by
  cases first <;> cases second <;> simp [reading, label, name?, value?] at same
  case openTop.openTop => exact same ▸ .same _
  case openSub.openSub => exact same ▸ .same _
  case parameter.parameter =>
      obtain ⟨rfl, values⟩ := same
      exact .parameter _ values
  all_goals exact .same _

theorem eq_blank_of_isBlank {content : Content} (blank : content.isBlank = true) :
    content = .blank := by
  cases content <;> cases blank
  rfl

theorem Alike.isBlank_eq {first second : Content} (alike : Alike first second) :
    first.isBlank = second.isBlank := by
  cases alike <;> rfl

end Content

namespace Line

open Text

theorem reading_readContent (first second : Nat) (text : Text) :
    (readContent first text).reading = (readContent second text).reading := by
  unfold readContent
  split
  · rfl
  · simp only [readParameter]
    split
    · split
      · rfl
      · split <;> rfl
    · rfl

theorem reading_append {space : Text} (blank : ∀ c ∈ space, isBlank c = true) (row : Text) :
    (read (space ++ row)).content.reading = (read row).content.reading := by
  have both {inner : Text} (innerBlank : ∀ c ∈ inner, isBlank c = true) :
      ∀ c ∈ space ++ inner, isBlank c = true := by
    intro c member
    rcases List.mem_append.mp member with outside | inside
    · exact blank c outside
    · exact innerBlank c inside
  cases shape row with
  | blank rowBlank => rw [read_blank rowBlank, read_blank (both rowBlank)]
  | comment innerBlank rest =>
      rw [← List.append_assoc, read_comment innerBlank, read_comment (both innerBlank)]
  | text innerBlank solid notMark rest =>
      rw [← List.append_assoc, read_text innerBlank solid notMark,
        read_text (both innerBlank) solid notMark]
      exact reading_readContent _ _ _

theorem reading_trimStart (row : Text) :
    (read (trimStart row)).content.reading = (read row).content.reading := by
  have split := reading_append (isBlank_of_mem_takeWhile row) (trimStart row)
  rw [← eq_takeWhile_append_trimStart] at split
  exact split.symm

theorem exists_solid_of_content {row : Text} (content : (read row).content.isBlank = false) :
    ∃ c rest, trimStart row = c :: rest ∧ Text.isBlank c = false := by
  cases shape row with
  | blank rowBlank =>
      rw [read_blank rowBlank] at content
      cases content
  | comment blank rest =>
      exact ⟨'#', rest, by rw [trimStart_append blank]; rfl, rfl⟩
  | text blank solid notMark rest =>
      exact ⟨_, rest, by rw [trimStart_append blank, trimStart_cons_of_solid solid], solid⟩

theorem indent_read {row : Text} (content : (read row).content.isBlank = false) :
    (read row).indent = (row.takeWhile isBlank).length := by
  cases shape row with
  | blank rowBlank =>
      rw [read_blank rowBlank] at content
      cases content
  | comment blank rest =>
      rw [read_comment blank, takeWhile_isBlank_append blank (by decide)]
  | text blank solid notMark rest =>
      rw [read_text blank solid notMark, takeWhile_isBlank_append blank solid]

end Line

def Text.contentRows (text : Text) : List Text :=
  (splitOn '\n' text).filter (fun row => !(Line.read row).content.isBlank)

end InputDeck
