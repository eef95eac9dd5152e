import InputDeck.Proofs.Analysis.Corrections
import InputDeck.Proofs.Deck.Supply
import InputDeck.Proofs.Layout.Standing

/-!
The rows that set parameters to their defaults below an opening tag.  What stood behind the tag ends
up behind the last of them.  They read as the parameters and stand where they should.
-/

namespace InputDeck

open Text

/-- A parameter that can be written in a row, and that does not change the type of its block when it
has to be. -/
structure Schema.Param.Lexable (param : Schema.Param) : Prop where
  name : Line.IsParameterName param.name
  unbroken : '\n' ∉ param.default.getD []
  untyped : param.name = "type".toList → param.required = false

namespace Analysis

open Deck Schema Layout

def defaultRows (width : Int) (level : Level) :
    (first : Text) → List Param → (tail : Text) → List Text
  | first, [], tail => [first ++ tail]
  | first, param :: rest, tail =>
      first :: defaultRows width level (defaultLine width level param) rest tail

def defaultEntries : List Param → (tail : Text) → List Entry
  | [], _ => []
  | param :: rest, tail =>
      ⟨param.name, Line.valueBehind (' ' :: param.default.getD [] ++
        if rest.isEmpty then tail else [])⟩ :: defaultEntries rest tail

theorem names_defaultEntries (params : List Param) (tail : Text) :
    (defaultEntries params tail).map (·.name) = params.map (·.name) := by
  induction params with
  | nil => rfl
  | cons param rest ih => exact congrArg (param.name :: ·) ih

section Rows

variable {width : Int} {level : Level} {param : Param} {params : List Param} {tail : Text}

theorem defaultLine_append (rest : Text) :
    defaultLine width level param ++ rest = indentation width level.depth ++
      Line.assignment param.name (' ' :: param.default.getD [] ++ rest) := by
  simp [defaultLine, Line.assignment]

theorem unbroken_defaultLine (lexable : param.Lexable) :
    '\n' ∉ defaultLine width level param := by
  have name : '\n' ∉ param.name := fun member => by
    simpa using (Line.isNameChar_iff.mp (lexable.name.named _ member)).1
  simp [defaultLine, indentation, name, lexable.unbroken]

theorem reading_defaultLine (lexable : param.Lexable) {rest : Text} (unbroken : '\n' ∉ rest) :
    (Line.read (defaultLine width level param ++ rest)).content.reading =
      ("param", some param.name, Line.valueBehind (' ' :: param.default.getD [] ++ rest)) := by
  rw [defaultLine_append, Line.reading_append isBlank_of_mem_indentation]
  apply Line.reading_assignment lexable.name
  simp [lexable.unbroken, unbroken]

theorem splitOn_defaultRows {first : Text} (firstUnbroken : '\n' ∉ first)
    (lexable : ∀ param ∈ params, param.Lexable) (tailUnbroken : '\n' ∉ tail) :
    splitOn '\n' (first ++ params.flatMap (defaultRow width level) ++ tail) =
      defaultRows width level first params tail := by
  induction params generalizing first with
  | nil =>
      rw [List.flatMap_nil, List.append_nil]
      exact splitOn_of_not_mem (by simp [firstUnbroken, tailUnbroken])
  | cons param rest ih =>
      rw [List.forall_mem_cons] at lexable
      have split : first ++ (param :: rest).flatMap (defaultRow width level) ++ tail =
          first ++ '\n' :: (defaultLine width level param ++
            rest.flatMap (defaultRow width level) ++ tail) := by
        simp [defaultRow, defaultLine]
      rw [split, splitOn_append_cons, splitOn_of_not_mem firstUnbroken,
        ih (unbroken_defaultLine lexable.1) lexable.2]
      rfl

theorem readings_defaultRows (lexable : ∀ param ∈ params, param.Lexable)
    (unbroken : '\n' ∉ tail) (first : Text) :
    (defaultRows width level first params tail).map (fun row => (Line.read row).content.reading) =
      (Line.read (first ++ if params.isEmpty then tail else [])).content.reading ::
        (defaultEntries params tail).map Entry.reading := by
  induction params generalizing first with
  | nil => rfl
  | cons param rest ih =>
      rw [List.forall_mem_cons] at lexable
      have behind : '\n' ∉ if rest.isEmpty then tail else [] := by
        split
        · exact unbroken
        · simp
      rw [defaultRows, List.map_cons, ih lexable.2, reading_defaultLine lexable.1 behind]
      simp [defaultEntries, Entry.reading]

theorem stands_defaultLine (lexable : param.Lexable) {rest : Text} (unbroken : '\n' ∉ rest) :
    Stands width level.depth [defaultLine width level param ++ rest] level.depth := by
  have reading := @reading_defaultLine width level param lexable rest unbroken
  obtain ⟨placed, content, -⟩ := Content.exists_parameter_of_reading reading
  obtain ⟨c, inner, named⟩ := List.exists_cons_of_ne_nil lexable.name.nonempty
  have first := lexable.name.named c (named ▸ List.mem_cons_self)
  rw [defaultLine_append] at content ⊢
  have stands := @Stands.indented width level.depth level.depth
    (Line.assignment param.name (' ' :: param.default.getD [] ++ rest)) c
    (Line.isNameChar_iff.mp first).1 (by simp [Line.assignment, named])
  rw [content] at stands
  exact stands rfl

theorem stands_defaultRows {depth : Nat} (lexable : ∀ param ∈ params, param.Lexable)
    (unbroken : '\n' ∉ tail) {first : Text}
    (stands : ∀ rest, '\n' ∉ rest → Stands width depth [first ++ rest] level.depth) :
    Stands width depth (defaultRows width level first params tail) level.depth := by
  induction params generalizing first depth with
  | nil => exact stands tail unbroken
  | cons param rest ih =>
      rw [List.forall_mem_cons] at lexable
      have alone := stands [] (by simp)
      rw [List.append_nil] at alone
      exact alone.append (ih lexable.2 fun _ => stands_defaultLine lexable.1)

theorem exists_defaultRows (width : Int) (level : Level) (first : Text) (params : List Param)
    (tail : Text) :
    ∃ rest others, defaultRows width level first params tail = (first ++ rest) :: others := by
  cases params with
  | nil => exact ⟨tail, [], rfl⟩
  | cons param rest => exact ⟨[], _, by rw [List.append_nil]; rfl⟩

end Rows

/-- A row, and what it becomes when parameters are written into it: they stand behind its opening
tag, on rows of their own. -/
inductive Filled (width : Int) (text : Text) : Text → List Entry → Prop
  | same : Filled width text text []
  | below (level : Level) {name tail : Text} {params : List Param}
      (opened : (Line.read text).content = level.opening name)
      (whole : text = text.takeWhile isBlank ++ (level.tag name ++ tail))
      (lexable : ∀ param ∈ params, param.Lexable) :
      Filled width text (text.takeWhile isBlank ++
        (level.tag name ++ params.flatMap (defaultRow width level) ++ tail))
        (defaultEntries params tail)

namespace Filled

variable {width : Int} {text new : Text} {entries : List Entry}

theorem opens (filled : Filled width text new entries) (some : entries ≠ []) :
    ∃ (level : Level) (name : Text), (Line.read text).content = level.opening name := by
  cases filled with
  | same => exact absurd rfl some
  | below level opened whole lexable => exact ⟨level, _, opened⟩

theorem readings_eq (filled : Filled width text new entries) (free : '\n' ∉ text) :
    readings new = (Line.read text).content.reading :: entries.map Entry.reading := by
  cases filled with
  | same => exact readings_of_free free
  | @below level name tail params opened whole lexable =>
      have blank := isBlank_of_mem_takeWhile text
      have valid := ((Line.content_eq_opening_iff level name text).mp opened).1
      rw [whole] at free
      simp only [List.mem_append, not_or] at free
      obtain ⟨spaceFree, tagFree, tailFree⟩ := free
      rw [readings_append_left blank spaceFree, readings,
        splitOn_defaultRows tagFree lexable tailFree, readings_defaultRows lexable tailFree,
        Line.content_tag_append level valid, opened]

theorem stands (filled : Filled width text new entries) (free : '\n' ∉ text)
    (content : (Line.read text).content.isBlank = false) (depth : Nat) :
    ∃ first others,
      splitOn '\n' (place (some width) (expectedLevel depth (Line.read text).content)
        (text.takeWhile isBlank).length new) = first :: others ∧
      (Line.read first).content.isBlank = false ∧
      Stands width depth (first :: others) (depthAfter depth (Line.read text).content) := by
  cases filled with
  | same =>
      let placed := place (some width) (expectedLevel depth (Line.read text).content)
        (text.takeWhile isBlank).length text
      have alike := Content.alike_of_reading
        (reading_place width (expectedLevel depth (Line.read text).content) text)
      have solid : (Line.read placed).content.isBlank = false := alike.isBlank_eq.trans content
      have unbroken : '\n' ∉ placed := by
        simp only [placed, place]
        split
        · intro member
          rcases List.mem_append.mp member with space | kept
          · exact absurd (List.eq_of_mem_replicate space) (by decide)
          · exact free (List.mem_of_mem_drop kept)
        · exact free
      refine ⟨placed, [], splitOn_of_not_mem unbroken, solid, ?_⟩
      rw [← alike.depthAfter_eq]
      exact .row solid fun row => foundAt_place content width row depth
  | @below level name tail params opened whole lexable =>
      have valid := ((Line.content_eq_opening_iff level name text).mp opened).1
      rw [whole] at free
      simp only [List.mem_append, not_or] at free
      obtain ⟨-, tagFree, tailFree⟩ := free
      have expected : expectedLevel depth (level.opening name) = some (level.depth - 1) := by
        cases level <;> rfl
      have behind : depthAfter depth (level.opening name) = level.depth := by
        cases level <;> rfl
      have headFree : '\n' ∉ indentation width (level.depth - 1) ++ level.tag name := by
        simp [indentation, tagFree]
      have split : splitOn '\n' (place (some width) (expectedLevel depth (Line.read text).content)
            (text.takeWhile isBlank).length (text.takeWhile isBlank ++
              (level.tag name ++ params.flatMap (defaultRow width level) ++ tail))) =
          defaultRows width level (indentation width (level.depth - 1) ++ level.tag name) params
            tail := by
        rw [opened, expected, ← splitOn_defaultRows headFree lexable tailFree]
        simp [place]
      have tagged : ∀ rest, (Line.read (indentation width (level.depth - 1) ++ level.tag name ++
          rest)).content = level.opening name := by
        intro rest
        rw [List.append_assoc]
        exact Line.content_space_tag isBlank_of_mem_indentation level valid rest
      have laid : Stands width depth (defaultRows width level
          (indentation width (level.depth - 1) ++ level.tag name) params tail) level.depth := by
        apply stands_defaultRows lexable tailFree
        intro rest _
        have start : (level.tag name ++ rest).head? = some '[' := by cases level <;> rfl
        have stands := @Stands.indented width depth (level.depth - 1) (level.tag name ++ rest) '['
          (by decide) start
        rw [← List.append_assoc, tagged rest, behind] at stands
        exact stands expected
      obtain ⟨rest, others, rows⟩ := exists_defaultRows width level
        (indentation width (level.depth - 1) ++ level.tag name) params tail
      rw [opened, behind]
      refine ⟨_, others, ?_, ?_, rows ▸ laid⟩
      · rw [← opened, split, rows]
      · exact Line.isBlank_of_opening (tagged rest)

end Filled

end Analysis

end InputDeck
