import InputDeck.Proofs.Edit.Insertion
import InputDeck.Proofs.Edit.Order

/-!
What becomes of a stretch of a row while edits of the row are applied at the places they were meant
for.  The stretch is carried along by what is written in front of it.  An edit that was placed
before the stretch moved may then fall into it, and takes it apart.
-/

namespace InputDeck

namespace Edit

open Text

/-- Where a stretch of a row stands after an edit of the row, if the edit leaves it in one piece and
at the start of what follows. -/
def carry (width : Nat) (column : Int) (edit : Edit) : Option Int :=
  match edit.correction with
  | .insertBefore text =>
      if edit.start.column ≤ column then some (column + text.length)
      else if column + width ≤ edit.start.column then some column
      else none
  | .insertAfter text =>
      if edit.stop.column < column then some (column + text.length)
      else if column + width ≤ edit.stop.column then some column
      else none
  | .replace text =>
      if edit.stop.column ≤ column then
        some (column + text.length - (edit.stop.column - edit.start.column))
      else if column + width ≤ edit.start.column then some column
      else none

/-- A stretch that stands at a column of a changed row, behind the white space of the row or at the
start of a row of its own.  Unless what follows it is `free`, it ends its row. -/
def Standing (space stem : Text) (free : Prop) (column : Int) (text : Text) : Prop :=
  ∃ before after, text = before ++ (stem ++ after) ∧ (before.length : Int) = column ∧
    (before = space ∨ ∃ inner, before = space ++ inner ++ ['\n']) ∧
    (free ∨ after = [] ∨ ∃ rest, after = '\n' :: rest)

namespace Standing

variable {space stem old : Text} {free : Prop} {column : Int}

theorem space_le (standing : Standing space stem free column old) :
    (space.length : Int) ≤ column := by
  obtain ⟨before, after, -, rfl, (rfl | ⟨inner, rfl⟩), -⟩ := standing
  · exact Int.le_refl _
  · simp only [List.length_append]
    omega

theorem insert_before (standing : Standing space stem free column old) (body : Text) :
    Standing space stem free (column + (body ++ ['\n']).length)
      (old.take space.length ++ (body ++ ['\n']) ++ old.drop space.length) := by
  obtain ⟨before, after, rfl, rfl, place, ends⟩ := standing
  rcases place with rfl | ⟨inner, rfl⟩
  · refine ⟨before ++ body ++ ['\n'], after, ?_, ?_, .inr ⟨body, rfl⟩, ends⟩
    · simp
    · simp
  · refine ⟨space ++ (body ++ '\n' :: inner) ++ ['\n'], after, ?_, ?_, .inr ⟨_, rfl⟩, ends⟩
    · simp
    · simp only [List.length_append, List.length_cons, List.length_nil]
      omega

theorem insert_ahead (standing : Standing space stem free column old) (new : Text) {place : Nat}
    (behindSpace : space.length ≤ place) (ahead : (place : Int) < column) :
    Standing space stem free (column + new.length)
      (old.take place ++ new ++ old.drop place) := by
  obtain ⟨before, after, rfl, rfl, (rfl | ⟨inner, rfl⟩), ends⟩ := standing
  · omega
  · have inside : place - space.length ≤ inner.length := by
      simp only [List.length_append, List.length_singleton] at ahead
      omega
    have split : place = space.length + (place - space.length) := by omega
    refine ⟨space ++ (inner.take (place - space.length) ++ new ++
      inner.drop (place - space.length)) ++ ['\n'], after, ?_, ?_, .inr ⟨_, rfl⟩, ends⟩
    · rw [split, List.append_assoc space, List.append_assoc space, List.take_length_add_append,
        List.drop_length_add_append, List.append_assoc inner, List.take_append_of_le_length inside,
        List.drop_append_of_le_length inside]
      simp
    · simp only [List.length_append, List.length_take, List.length_drop, List.length_singleton]
      omega

theorem insert_behind (standing : Standing space stem free column old) (body : Text) {place : Nat}
    (behind : column + stem.length ≤ place) (within : place ≤ old.length) :
    Standing space stem free column
      (old.take place ++ ('\n' :: body) ++ old.drop place) := by
  obtain ⟨before, after, rfl, rfl, start, ends⟩ := standing
  have split : place = (before ++ stem).length + (place - (before ++ stem).length) := by
    rw [List.length_append]
    omega
  refine ⟨before, after.take (place - (before ++ stem).length) ++ ('\n' :: body) ++
    after.drop (place - (before ++ stem).length), ?_, rfl, start, ?_⟩
  · rw [← List.append_assoc before, split, List.take_length_add_append,
      List.drop_length_add_append, ← split]
    simp
  · rcases ends with free | rfl | ⟨rest, rfl⟩
    · exact .inl free
    · exact .inr (.inr ⟨body, by simp⟩)
    · cases place - (before ++ stem).length with
      | zero => exact .inr (.inr ⟨_, rfl⟩)
      | succ count => exact .inr (.inr ⟨_, rfl⟩)

theorem openings_eq_zero {level : Level} {name body : Text} {place : Nat}
    (standing : Standing space (level.tag name) free column old) (valid : Line.IsBlockName name)
    (oneRow : '\n' ∉ level.tag name) (guards : Guards body) (single : openings old ≤ 1)
    (moved : (space.length : Int) < column) (start : column ≤ place)
    (inside : place < column + (level.tag name).length) :
    openings (old.take place ++ ('\n' :: body) ++ old.drop place) = 0 := by
  obtain ⟨before, after, rfl, rfl, (rfl | ⟨inner, rfl⟩), -⟩ := standing
  · omega
  · let tag := level.tag name
    let count := place - (space ++ inner ++ ['\n']).length
    have split : place = (space ++ inner ++ ['\n']).length + count := by omega
    have short : count < tag.length := by
      change count < (level.tag name).length
      omega
    have whole : openings (space ++ inner) + (1 + laterOpenings after) ≤ 1 := by
      obtain ⟨row, counted⟩ := openings_append_of_free oneRow after
      rw [Line.opens_tag_append level valid, if_pos rfl] at counted
      rw [← counted, ← openings_append_newline]
      simpa using single
    have cutFree : '\n' ∉ tag.take count := fun member => oneRow (List.mem_of_mem_take member)
    have restFree : '\n' ∉ tag.drop count := fun member => oneRow (List.mem_of_mem_drop member)
    have result : (space ++ inner ++ ['\n'] ++ (tag ++ after)).take place ++ ('\n' :: body) ++
          (space ++ inner ++ ['\n'] ++ (tag ++ after)).drop place =
        (space ++ inner) ++
          '\n' :: (tag.take count ++ '\n' :: (body ++ (tag.drop count ++ after))) := by
      rw [split, List.take_length_add_append, List.drop_length_add_append,
        List.take_append_of_le_length (Nat.le_of_lt short),
        List.drop_append_of_le_length (Nat.le_of_lt short)]
      simp
    rw [result, openings_append_newline, openings_append_newline, guards.openings_append,
      laterOpenings_append_of_free restFree, openings_of_free cutFree,
      Line.not_opens_take_tag level valid short]
    simp only [Bool.false_eq_true, if_false]
    omega

theorem sublist_readings {reading : String × Option Text × Option Text}
    (standing : Standing space stem free column old) (blank : ∀ c ∈ space, isBlank c = true)
    (spaceFree : '\n' ∉ space) (stemFree : '\n' ∉ stem)
    (keeps : ∀ rest, free ∨ rest = [] → (Line.read (stem ++ rest)).content.reading = reading) :
    [reading].Sublist (readings old) := by
  obtain ⟨before, after, rfl, -, place, ends⟩ := standing
  have row : [reading].Sublist (readings (stem ++ after)) := by
    obtain ⟨first, rows, split, joined⟩ := splitOn_append_of_free stemFree after
    have meaning : (Line.read (stem ++ first)).content.reading = reading := by
      apply keeps
      rcases ends with free | rfl | ⟨rest, rfl⟩
      · exact .inl free
      · exact .inr (List.cons.inj split).1.symm
      · exact .inr (List.cons.inj ((splitOn_append_cons '\n' [] rest).symm.trans split)).1.symm
    rw [readings, joined, List.map_cons, meaning]
    exact (List.nil_sublist _).cons_cons reading
  rcases place with rfl | ⟨inner, rfl⟩
  · rwa [readings_append_left blank spaceFree]
  · rw [List.append_assoc (space ++ inner), List.singleton_append, readings_append_newline]
    exact row.trans (List.sublist_append_right _ _)

end Standing

/-- What is left of a tag after an edit: it stands where it is carried to, or opens nothing. -/
def Carried (plain : Prop) (space tag : Text) (column : Option Int) (old new : Text) : Prop :=
  match column with
  | some column => Standing space tag True column new
  | none => plain → openings old ≤ 1 → openings new = 0

namespace Insertion

variable {plain : Prop} {row : Nat} {text old : Text} {edit : Edit}

private theorem carried_after {level : Level} {name body space : Text} {column : Int} {place : Nat}
    {start stop : Position}
    (standing : Standing space (level.tag name) True column old) (valid : Line.IsBlockName name)
    (oneRow : '\n' ∉ level.tag name) (guards : plain → Guards body) (stops : stop.column = place)
    (behindTag : space.length + (level.tag name).length ≤ place) (within : place ≤ old.length) :
    Carried plain space (level.tag name)
      (carry (level.tag name).length column ⟨start, stop, .insertAfter ('\n' :: body)⟩) old
      (old.take place ++ ('\n' :: body) ++ old.drop place) := by
  simp only [carry, stops]
  split
  · next ahead => exact standing.insert_ahead _ (by omega) ahead
  · split
    · next behind => exact standing.insert_behind body behind within
    · exact fun holds single =>
        standing.openings_eq_zero valid oneRow (guards holds) single
          (by omega) (by omega) (by omega)

theorem carried_onRow {level : Level} {name : Text} {column : Int}
    (inserted : Insertion plain row text edit) (oneRow : '\n' ∉ text)
    (opened : (Line.read text).content = level.opening name)
    (standing : Standing (text.takeWhile isBlank) (level.tag name) True column old)
    (long : text.length ≤ old.length) :
    Carried plain (text.takeWhile isBlank) (level.tag name)
      (carry (level.tag name).length column edit) old (edit.onRow old) := by
  obtain ⟨valid, tagPrefix⟩ := (Line.content_eq_opening_iff level name text).mp opened
  have tagFree : '\n' ∉ level.tag name := by
    intro member
    exact oneRow ((List.dropWhile_sublist _).subset (tagPrefix.subset member))
  have bound := length_le_of_opening opened
  cases inserted with
  | before stop body within shut tagged =>
      have moved : carry (level.tag name).length column
            ⟨⟨row, (text.takeWhile isBlank).length⟩, ⟨row, stop⟩, .insertBefore (body ++ ['\n'])⟩ =
          some (column + (body ++ ['\n']).length) := by
        simp only [carry]
        exact if_pos standing.space_le
      rw [moved, onRow, splice_insertBefore]
      exact standing.insert_before body
  | header level' name' body opened' guards =>
      have same : level'.tag name' = level.tag name := by
        rw [opened] at opened'
        cases level <;> cases level' <;> cases opened' <;> rfl
      rw [onRow, splice_insertAfter, same]
      exact carried_after standing valid tagFree guards rfl (Nat.le_refl _) (by omega)
  | tail body guards unclosed =>
      rw [onRow, splice_insertAfter]
      exact carried_after standing valid tagFree (fun _ => guards) rfl (by omega) long

end Insertion

section Row

variable {plain : Prop} {row : Nat} {text old : Text} {edits : List Edit}

theorem carried_foldl {level : Level} {name : Text} {column : Int}
    (inserted : ∀ edit ∈ edits, Insertion plain row text edit) (oneRow : '\n' ∉ text)
    (opened : (Line.read text).content = level.opening name)
    (standing : Standing (text.takeWhile isBlank) (level.tag name) True column old)
    (space : text.takeWhile isBlank <+: old) (long : text.length ≤ old.length) :
    Carried plain (text.takeWhile isBlank) (level.tag name)
      (edits.foldlM (carry (level.tag name).length) column) old (edits.foldl onRow old) := by
  have spaceFree := not_mem_takeWhile oneRow
  induction edits generalizing old column with
  | nil => exact standing
  | cons edit edits ih =>
      have first := inserted edit List.mem_cons_self
      have others : ∀ other ∈ edits, Insertion plain row text other :=
        fun other member => inserted other (List.mem_cons_of_mem edit member)
      have step := first.carried_onRow oneRow opened standing long
      rw [List.foldlM_cons, List.foldl_cons]
      cases carried : carry (level.tag name).length column edit with
      | none =>
          rw [carried] at step
          intro holds single
          have lost := step holds single
          have bound := openings_foldl_le others holds spaceFree (first.space_prefix space)
          omega
      | some next =>
          rw [carried] at step
          have rest := ih others step (first.space_prefix space)
            (Nat.le_trans long (first.length_le old))
          simp only [Option.bind_eq_bind, Option.bind_some]
          cases last : edits.foldlM (carry (level.tag name).length) next with
          | none =>
              rw [last] at rest
              intro holds single
              exact rest holds (Nat.le_trans (first.openings_le holds spaceFree space) single)
          | some final =>
              rw [last] at rest
              exact rest

private theorem not_opening {level : Level} {name : Text} (shut : Line.opens text = false) :
    (Line.read text).content ≠ level.opening name := by
  intro opened
  have opens := (Line.opens_iff_content text).mpr ⟨level, name, opened⟩
  rw [shut] at opens
  cases opens

private theorem standing_closing {stem : Text} {column : Int}
    (inserted : ∀ edit ∈ edits, Insertion plain row text edit)
    (closing : (Line.read text).content = .closeTop)
    (standing : Standing (text.takeWhile isBlank) stem False column old) :
    ∃ last, Standing (text.takeWhile isBlank) stem False last (edits.foldl onRow old) := by
  induction edits generalizing old column with
  | nil => exact ⟨column, standing⟩
  | cons edit edits ih =>
      have others : ∀ other ∈ edits, Insertion plain row text other :=
        fun other member => inserted other (List.mem_cons_of_mem edit member)
      cases inserted edit List.mem_cons_self with
      | before stop body within shut tagged =>
          rw [List.foldl_cons, onRow, splice_insertBefore]
          exact ih others (standing.insert_before body)
      | header level name body opened guards =>
          rw [closing] at opened
          cases level <;> cases opened
      | tail body guards unclosed => exact absurd closing unclosed

private theorem standing_open {stem : Text}
    (inserted : ∀ edit ∈ edits, Insertion plain row text edit)
    (shut : Line.opens text = false) (unclosed : (Line.read text).content ≠ .closeTop)
    (width : (text.takeWhile isBlank).length + stem.length = text.length)
    (long : text.length ≤ old.length)
    (standing : Standing (text.takeWhile isBlank) stem False (text.takeWhile isBlank).length old) :
    Standing (text.takeWhile isBlank) stem False (text.takeWhile isBlank).length
      (edits.foldl onRow old) := by
  induction edits generalizing old with
  | nil => exact standing
  | cons edit edits ih =>
      have others : ∀ other ∈ edits, Insertion plain row text other :=
        fun other member => inserted other (List.mem_cons_of_mem edit member)
      have first := inserted edit List.mem_cons_self
      have grown := Nat.le_trans long (first.length_le old)
      cases first with
      | before stop body within bodyShut tagged =>
          rcases tagged with closing | opens
          · exact absurd closing unclosed
          · rw [shut] at opens
            cases opens
      | header level name body opened guards => exact absurd opened (not_opening shut)
      | tail body guards notClosed =>
          apply ih others grown
          rw [onRow, splice_insertAfter]
          exact standing.insert_behind body (by omega) long

/-- A row that opens nothing stands as a whole: closing tags are written either in front of it or
behind it, never both. -/
theorem standing_foldl (inserted : ∀ edit ∈ edits, Insertion plain row text edit)
    (shut : Line.opens text = false) :
    ∃ column, Standing (text.takeWhile isBlank) (trimStart text) False column
      (edits.foldl onRow text) := by
  have whole : Standing (text.takeWhile isBlank) (trimStart text) False
      (text.takeWhile isBlank).length text := by
    refine ⟨text.takeWhile isBlank, [], ?_, rfl, .inl rfl, .inr (.inl rfl)⟩
    rw [List.append_nil]
    exact eq_takeWhile_append_trimStart text
  by_cases closing : (Line.read text).content = .closeTop
  · exact standing_closing inserted closing whole
  · have width : (text.takeWhile isBlank).length + (trimStart text).length = text.length := by
      rw [← List.length_append, ← eq_takeWhile_append_trimStart]
    exact ⟨_, standing_open inserted shut closing width (Nat.le_refl _) whole⟩

private theorem standing_tag {level : Level} {name : Text}
    (opened : (Line.read text).content = level.opening name) :
    Standing (text.takeWhile isBlank) (level.tag name) True (Line.read text).indent text := by
  obtain ⟨-, rest, behind⟩ := (Line.content_eq_opening_iff level name text).mp opened
  refine ⟨text.takeWhile isBlank, rest, ?_, ?_, .inl rfl, .inl trivial⟩
  · rw [behind]
    exact eq_takeWhile_append_trimStart text
  · rw [Line.indent_read (Line.isBlank_of_opening opened)]

theorem reading_kept (inserted : ∀ edit ∈ edits, Insertion plain row text edit)
    (oneRow : '\n' ∉ text)
    (stands : ∀ (level : Level) (name : Text), (Line.read text).content = level.opening name →
      (edits.foldlM (carry (level.tag name).length) ((Line.read text).indent : Int)).isSome) :
    [(Line.read text).content.reading].Sublist (readings (edits.foldl onRow text)) := by
  have blank := isBlank_of_mem_takeWhile text
  have spaceFree := not_mem_takeWhile oneRow
  have stemFree : '\n' ∉ trimStart text :=
    fun member => oneRow ((List.dropWhile_sublist _).subset member)
  cases opens : Line.opens text with
  | true =>
      obtain ⟨level, name, opened⟩ := (Line.opens_iff_content text).mp opens
      obtain ⟨valid, tagPrefix⟩ := (Line.content_eq_opening_iff level name text).mp opened
      obtain ⟨last, through⟩ := Option.isSome_iff_exists.mp (stands level name opened)
      have carried := carried_foldl inserted oneRow opened (standing_tag opened)
        (List.takeWhile_prefix _) (Nat.le_refl _)
      rw [through] at carried
      refine carried.sublist_readings blank spaceFree
        (fun member => stemFree (tagPrefix.subset member)) fun rest _ => ?_
      rw [opened, Line.content_tag_append level valid]
  | false =>
      obtain ⟨column, standing⟩ := standing_foldl inserted opens
      refine standing.sublist_readings blank spaceFree stemFree fun rest ends => ?_
      obtain rfl : rest = [] := ends.resolve_left id
      rw [List.append_nil, Line.reading_trimStart]

theorem stands_of_opening (inserted : ∀ edit ∈ edits, Insertion plain row text edit)
    (holds : plain) (oneRow : '\n' ∉ text) {level : Level} {name : Text}
    (opened : (Line.read text).content = level.opening name)
    (opening : 1 ≤ openings (edits.foldl onRow text)) :
    (edits.foldlM (carry (level.tag name).length) ((Line.read text).indent : Int)).isSome := by
  have carried := carried_foldl inserted oneRow opened (standing_tag opened)
    (List.takeWhile_prefix _) (Nat.le_refl _)
  have single : openings text ≤ 1 := by
    rw [openings_of_free oneRow]
    split <;> omega
  cases through : edits.foldlM (carry (level.tag name).length) ((Line.read text).indent : Int) with
  | some last => rfl
  | none =>
      rw [through] at carried
      have lost := carried holds single
      omega

end Row

def isInsertion (edit : Edit) : Bool :=
  match edit.correction with
  | .replace _ => false
  | _ => true

def insertionsOf (edits : List Edit) (row : Nat) : List Edit :=
  (ofRow row (lastFirst edits)).filter isInsertion

/-- Every opening tag stays in one piece while the insertions of its row are applied, each at the
place it had before any of them was. -/
def TagsStand (rows : List Text) (insertions : Nat → List Edit) : Prop :=
  ∀ (row : Nat) (text : Text) (level : Level) (name : Text), rows[row]? = some text →
    (Line.read text).content = level.opening name →
      ((insertions row).foldlM (carry (level.tag name).length)
        ((Line.read text).indent : Int)).isSome

end Edit

end InputDeck
