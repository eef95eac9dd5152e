import InputDeck.Outline.Basic
import InputDeck.Proofs.Line.Reading

/-!
Opening tags.  A row opens a block exactly when a tag stands behind the white space that the row
starts with; what follows the tag does not matter.
-/

namespace InputDeck

namespace Level

def opening : Level → Text → Content
  | top, name => .openTop name
  | sub, name => .openSub name

def bracket : Level → Text
  | top => ['[']
  | sub => ['[', '.', '/']

def tag (level : Level) (name : Text) : Text :=
  level.bracket ++ name ++ [']']

theorem length_tag (level : Level) (name : Text) :
    (level.tag name).length = name.length + level.tagWidth := by
  cases level <;> simp [tag, bracket, tagWidth]

end Level

theorem Outline.Block.headerEnd_eq (level : Level) {block : Outline.Block} {row column : Nat}
    (start : block.start = ⟨row, column⟩) :
    block.headerEnd level = ⟨row, (column + (level.tag block.name).length : Nat)⟩ := by
  simp [headerEnd, start, Level.length_tag, Int.add_assoc]

namespace Line

open Text

/-- A name that an opening tag can hold. -/
def FitsTag (name : Text) : Prop :=
  ∃ c rest, name = c :: rest ∧ startsBlockName c = true ∧ ∀ d ∈ rest, continuesBlockName d = true

theorem FitsTag.closing_not_mem {name : Text} (fits : FitsTag name) : ']' ∉ name := by
  obtain ⟨c, rest, rfl, first, continues⟩ := fits
  intro member
  rcases List.mem_cons.mp member with rfl | inside
  · simp [startsBlockName] at first
  · have impossible := continues ']' inside
    simp [continuesBlockName] at impossible

theorem blockName?_eq_some_iff (text name : Text) :
    blockName? text = some name ↔ FitsTag name ∧ ∃ rest, text = name ++ ']' :: rest := by
  constructor
  · intro found
    cases text with
    | nil => cases found
    | cons c text =>
        simp only [blockName?] at found
        split at found
        · next first =>
            split at found
            · next rest behind =>
                obtain rfl := Option.some.inj found
                refine ⟨⟨c, text.takeWhile continuesBlockName, rfl, first, ?_⟩, rest, ?_⟩
                · exact fun d member => List.mem_takeWhile_imp member
                · rw [List.cons_append, ← behind, List.takeWhile_append_dropWhile]
            · cases found
        · cases found
  · rintro ⟨⟨c, inner, rfl, first, continues⟩, rest, rfl⟩
    have stop : continuesBlockName ']' = false := by decide
    have taken : (inner ++ ']' :: rest).takeWhile continuesBlockName = inner := by
      rw [List.takeWhile_append_of_pos continues, List.takeWhile_cons, stop]
      simp
    have behind : (inner ++ ']' :: rest).dropWhile continuesBlockName = ']' :: rest := by
      rw [List.dropWhile_append_of_pos continues, List.dropWhile_cons, stop]
      simp
    simp only [List.cons_append, blockName?, first, if_true, behind, taken]

theorem readTag_eq_opening_iff (level : Level) (name text : Text) :
    readTag text = level.opening name ↔
      FitsTag name ∧ ∃ rest, '[' :: text = level.tag name ++ rest := by
  cases level with
  | top =>
      have named : readTag text = .openTop name ↔ blockName? text = some name := by
        unfold readTag
        cases blockName? text with
        | some other => simp
        | none =>
            simp only [reduceCtorEq, iff_false]
            split
            · simp
            · split <;> simp
            · simp
            · simp
      rw [Level.opening, named, blockName?_eq_some_iff]
      simp [Level.tag, Level.bracket]
  | sub =>
      have named : readTag text = .openSub name ↔
          ∃ inner, text = '.' :: '/' :: inner ∧ blockName? inner = some name := by
        constructor
        · intro read
          unfold readTag at read
          split at read
          · cases read
          · split at read
            · cases read
            · next inner _ =>
                split at read
                · next found =>
                    obtain rfl := Content.openSub.inj read
                    exact ⟨inner, rfl, found⟩
                · cases read
            · cases read
            · cases read
        · rintro ⟨inner, rfl, found⟩
          have dotted : blockName? ('.' :: '/' :: inner) = none := by
            simp [blockName?, startsBlockName]
          simp only [readTag, dotted, found]
      rw [Level.opening, named]
      simp only [blockName?_eq_some_iff, Level.tag, Level.bracket]
      constructor
      · rintro ⟨inner, rfl, fits, rest, rfl⟩
        exact ⟨fits, rest, by simp⟩
      · rintro ⟨fits, rest, same⟩
        exact ⟨name ++ ']' :: rest, by simpa using same, fits, rest, rfl⟩

theorem readContent_eq_opening_iff (column : Nat) (level : Level) (name text : Text) :
    readContent column text = level.opening name ↔
      FitsTag name ∧ ∃ rest, text = level.tag name ++ rest := by
  unfold readContent
  split
  · exact readTag_eq_opening_iff level name _
  · next notTag =>
      constructor
      · intro read
        simp only [readParameter] at read
        split at read
        · split at read
          · cases level <;> cases read
          · split at read <;> cases level <;> cases read
        · cases level <;> cases read
      · rintro ⟨-, rest, rfl⟩
        cases level <;> exact absurd rfl (notTag _)

/-- A name that a row can give to a block. -/
structure IsBlockName (name : Text) : Prop where
  fits : FitsTag name
  uncommented : '#' ∉ name

theorem trimEnd_uncommented_tag (level : Level) {name : Text} (valid : IsBlockName name)
    (rest : Text) :
    trimEnd (uncommented (level.tag name ++ rest)) =
      level.tag name ++ trimEnd (uncommented rest) := by
  have outside : ∀ c ∈ level.tag name, (c != '#') = true := by
    intro c member
    have named : c = '#' → c ∉ name := by
      rintro rfl
      exact valid.uncommented
    cases level <;> simp [Level.tag, Level.bracket] at member <;> grind
  have whole : uncommented (level.tag name ++ rest) = level.tag name ++ uncommented rest :=
    List.takeWhile_append_of_pos outside
  rw [whole, Level.tag, List.append_assoc, List.append_assoc]
  have solid : isBlank ']' = false := by decide
  have closed := trimEnd_append_cons solid (level.bracket ++ name) (uncommented rest)
  simpa only [List.append_assoc, List.singleton_append] using closed

theorem isPrefix_trimEnd (text : Text) : trimEnd text <+: text := by
  rw [← List.reverse_suffix, trimEnd, dropEndWhile, List.reverse_reverse]
  exact List.dropWhile_suffix isBlank

theorem content_eq_opening_iff (level : Level) (name row : Text) :
    (read row).content = level.opening name ↔
      IsBlockName name ∧ level.tag name <+: trimStart row := by
  cases shape row with
  | blank rowBlank =>
      rw [read_blank rowBlank, trimStart_of_blank rowBlank, List.prefix_nil]
      cases level <;> simp [Level.opening, Level.tag, Level.bracket]
  | comment blank rest =>
      rw [read_comment blank, trimStart_append blank]
      cases level <;> simp [Level.opening, Level.tag, Level.bracket, trimStart, isBlank]
  | @text space blank c solid notMark rest =>
      rw [read_text blank solid notMark, readContent_eq_opening_iff, trimStart_append blank,
        trimStart_cons_of_solid solid]
      have head : trimEnd (uncommented (c :: rest)) = c :: trimEnd (uncommented rest) := by
        have kept := trimEnd_append_cons solid [] (uncommented rest)
        simpa [uncommented, notMark] using kept
      constructor
      · rintro ⟨fits, after, same⟩
        have unmarked : '#' ∉ level.tag name := by
          intro member
          have inside : '#' ∈ trimEnd (uncommented (c :: rest)) := by
            rw [head, same]
            exact List.mem_append_left after member
          have taken := (isPrefix_trimEnd (uncommented (c :: rest))).subset inside
          simpa using List.mem_takeWhile_imp taken
        refine ⟨⟨fits, fun member => unmarked (by simp [Level.tag, member])⟩, ?_⟩
        have first : level.tag name <+: trimEnd (uncommented (c :: rest)) :=
          ⟨after, by rw [head, same]⟩
        exact first.trans ((isPrefix_trimEnd _).trans (List.takeWhile_prefix _))
      · rintro ⟨valid, after, same⟩
        refine ⟨valid.fits, trimEnd (uncommented after), ?_⟩
        rw [← head, ← same, trimEnd_uncommented_tag level valid]

theorem stop_read_le (row : Text) : (read row).stop ≤ row.length := by
  cases shape row with
  | blank rowBlank => simp [read_blank rowBlank]
  | comment blank rest =>
      rw [read_comment blank]
      exact (isPrefix_trimEnd _).length_le
  | @text space blank c solid notMark rest =>
      have cut := ((isPrefix_trimEnd (uncommented rest)).trans (List.takeWhile_prefix _)).length_le
      rw [read_text blank solid notMark, List.length_append, List.length_cons]
      simp only
      omega

theorem indent_read_le_stop (row : Text) : (read row).indent ≤ (read row).stop := by
  cases shape row with
  | blank rowBlank => simp [read_blank rowBlank]
  | comment blank rest =>
      rw [read_comment blank, trimEnd_append_cons (by decide), List.length_append]
      exact Nat.le_add_right _ _
  | text blank solid notMark rest =>
      rw [read_text blank solid notMark]
      simp only
      omega

def opens (row : Text) : Bool :=
  match (read row).content with
  | .openTop _ | .openSub _ => true
  | _ => false

theorem opens_iff_content (row : Text) :
    opens row = true ↔
      ∃ (level : Level) (name : Text), (read row).content = level.opening name := by
  unfold opens
  constructor
  · intro opened
    split at opened
    · next name content => exact ⟨.top, name, content⟩
    · next name content => exact ⟨.sub, name, content⟩
    · cases opened
  · rintro ⟨level, name, content⟩
    rw [content]
    cases level <;> rfl

theorem isBlank_of_opening {level : Level} {name row : Text}
    (opened : (read row).content = level.opening name) : (read row).content.isBlank = false := by
  rw [opened]
  cases level <;> rfl

theorem isBlank_of_opens {row : Text} (opened : opens row = true) :
    (read row).content.isBlank = false := by
  obtain ⟨level, name, content⟩ := (opens_iff_content row).mp opened
  exact isBlank_of_opening content

theorem opens_iff (row : Text) :
    opens row = true ↔
      ∃ (level : Level) (name : Text), IsBlockName name ∧ level.tag name <+: trimStart row := by
  rw [opens_iff_content]
  simp only [content_eq_opening_iff]

theorem opens_append_left {space : Text} (blank : ∀ c ∈ space, isBlank c = true) (row : Text) :
    opens (space ++ row) = opens row := by
  rw [Bool.eq_iff_iff, opens_iff, opens_iff, trimStart_append blank]

theorem opens_append {row : Text} (opened : opens row = true) (rest : Text) :
    opens (row ++ rest) = true := by
  rw [opens_iff] at opened ⊢
  obtain ⟨level, name, valid, before⟩ := opened
  refine ⟨level, name, valid, before.trans ?_⟩
  have nonempty : (trimStart row).isEmpty = false := by
    cases start : trimStart row with
    | nil =>
        rw [start, List.prefix_nil] at before
        cases level <;> cases before
    | cons => rfl
  rw [trimStart, trimStart, List.dropWhile_append, ← trimStart, nonempty]
  exact List.prefix_append _ _

theorem not_opens_of_closing_not_mem {row : Text} (unclosed : ']' ∉ row) : opens row = false := by
  rw [Bool.eq_false_iff, ne_eq, opens_iff]
  rintro ⟨level, name, -, before⟩
  apply unclosed
  have inside : ']' ∈ level.tag name := by simp [Level.tag]
  exact List.dropWhile_sublist _ |>.subset (before.subset inside)

theorem content_tag_append (level : Level) {name : Text} (valid : IsBlockName name) (rest : Text) :
    (read (level.tag name ++ rest)).content = level.opening name := by
  have solid : isBlank '[' = false := by decide
  rw [content_eq_opening_iff]
  refine ⟨valid, ?_⟩
  cases level <;> exact (trimStart_cons_of_solid solid _).symm ▸ List.prefix_append _ rest

theorem content_space_tag {space : Text} (blank : ∀ c ∈ space, isBlank c = true) (level : Level)
    {name : Text} (valid : IsBlockName name) (rest : Text) :
    (read (space ++ (level.tag name ++ rest))).content = level.opening name := by
  rw [content_eq_opening_iff, trimStart_append blank, ← content_eq_opening_iff]
  exact content_tag_append level valid rest

theorem opens_tag_append (level : Level) {name : Text} (valid : IsBlockName name) (rest : Text) :
    opens (level.tag name ++ rest) = true :=
  (opens_iff_content _).mpr ⟨level, name, content_tag_append level valid rest⟩

theorem not_opens_take_tag (level : Level) {name : Text} (valid : IsBlockName name) {count : Nat}
    (short : count < (level.tag name).length) : opens ((level.tag name).take count) = false := by
  apply not_opens_of_closing_not_mem
  rw [Level.tag, List.length_append, List.length_singleton] at short
  rw [Level.tag, List.take_append_of_le_length (Nat.le_of_lt_succ short)]
  intro member
  rcases List.mem_append.mp (List.mem_of_mem_take member) with bracketed | named
  · cases level <;> simp [Level.bracket] at bracketed
  · exact valid.fits.closing_not_mem named

theorem not_opens_of_head {c : Char} (solid : isBlank c = false) (noTag : c ≠ '[') (rest : Text) :
    opens (c :: rest) = false := by
  rw [Bool.eq_false_iff, ne_eq, opens_iff, trimStart_cons_of_solid solid]
  rintro ⟨level, name, -, before⟩
  cases level <;> exact noTag (List.cons_prefix_cons.mp before).1.symm

theorem not_opens_equals {name : Text} (unbracketed : '[' ∉ name) (rest : Text) :
    opens (name ++ '=' :: rest) = false := by
  have split := eq_takeWhile_append_trimStart name
  rw [split, List.append_assoc, opens_append_left (isBlank_of_mem_takeWhile name)]
  cases start : trimStart name with
  | nil => exact not_opens_of_head (by decide) (by decide) rest
  | cons c inner =>
      have solid : isBlank c = false := by
        have kept := List.head?_dropWhile_not isBlank name
        rw [← trimStart, start] at kept
        simpa using kept
      apply not_opens_of_head solid
      rintro rfl
      exact unbracketed (by rw [split, start]; simp)

theorem not_opens_closing (rest : Text) :
    opens ('[' :: ']' :: rest) = false ∧ opens ('[' :: '.' :: '.' :: rest) = false := by
  have start : ∀ text : Text, trimStart ('[' :: text) = '[' :: text :=
    trimStart_cons_of_solid (by decide)
  simp only [Bool.eq_false_iff, ne_eq, opens_iff, start]
  constructor <;> rintro ⟨level, name, ⟨⟨c, inner, rfl, first, -⟩, -⟩, before⟩ <;>
    cases level <;> simp [Level.tag, Level.bracket, List.cons_prefix_cons] at before
  · simp [before.1, startsBlockName] at first
  · simp [before.1, startsBlockName] at first

end Line

end InputDeck
