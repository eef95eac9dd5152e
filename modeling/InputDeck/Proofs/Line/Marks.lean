import InputDeck.Context
import InputDeck.Proofs.Line.Tag

/-!
What a row shows to a reader that looks for brackets and for the word `type` only.  It sees the tag
that the row is read as, and the first word of the value where the row is read as the parameter
`type`.
-/

namespace InputDeck

namespace Text

theorem exists_trimEnd (text : Text) :
    ∃ space : Text, (∀ c ∈ space, isBlank c = true) ∧ text = trimEnd text ++ space := by
  refine ⟨(text.reverse.takeWhile isBlank).reverse, fun c member => ?_, ?_⟩
  · exact List.mem_takeWhile_imp (List.mem_reverse.mp member)
  · rw [trimEnd, dropEndWhile, ← List.reverse_append, List.takeWhile_append_dropWhile,
      List.reverse_reverse]

theorem dropStart?_eq_some_iff {start text rest : Text} :
    dropStart? start text = some rest ↔ text = start ++ rest := by
  induction start generalizing text with
  | nil => simp [dropStart?, eq_comm]
  | cons s start ih =>
      cases text with
      | nil => simp [dropStart?]
      | cons c text =>
          by_cases same : s = c
          · simp [dropStart?, same, ih]
          · simp [dropStart?, same, Ne.symm same]

theorem takeWhile_append_of_not {p : Char → Bool} (first : Text) {second : Text}
    (fails : ∀ c ∈ second, p c = false) : (first ++ second).takeWhile p = first.takeWhile p := by
  induction first with
  | nil =>
      cases second with
      | nil => rfl
      | cons c second => simp [fails c List.mem_cons_self]
  | cons c first ih => simp [List.takeWhile_cons, ih]

theorem takeWhile_dropWhile_append {p : Char → Bool} {first second : Text}
    (all : ∀ c ∈ first, p c = true) (stops : ∀ c ∈ second.head?, p c = false) :
    (first ++ second).takeWhile p = first ∧ (first ++ second).dropWhile p = second := by
  rw [List.takeWhile_append_of_pos all, List.dropWhile_append_of_pos all]
  cases second with
  | nil => simp
  | cons c second => simp [stops c rfl]

theorem column_le_of_mem_runs (p : Char → Bool) (column : Nat) (text : Text) {run : Text × Nat}
    (member : run ∈ runs p column text) : column ≤ run.2 := by
  induction text generalizing column run with
  | nil => cases member
  | cons c text ih =>
      have later : ∀ other ∈ runs p (column + 1) text, column ≤ other.2 :=
        fun other inside => Nat.le_of_succ_le (ih (column + 1) inside)
      simp only [runs] at member
      split at member
      · split at member
        · next word start more split =>
            split at member <;> rcases List.mem_cons.mp member with rfl | inside
            · exact Nat.le_refl _
            · exact later run (split ▸ List.mem_cons_of_mem _ inside)
            · exact Nat.le_refl _
            · exact later run inside
        · rw [List.mem_singleton.mp member]
      · exact later run member

theorem runs_cons_of_neg {p : Char → Bool} (column : Nat) {c : Char} (fails : p c = false)
    (rest : Text) : runs p column (c :: rest) = runs p (column + 1) rest := by
  simp [runs, fails]

theorem runs_cons_of_pos {p : Char → Bool} (column : Nat) {c : Char} (holds : p c = true)
    (rest : Text) :
    runs p column (c :: rest) = (c :: rest.takeWhile p, column) ::
      runs p (column + 1 + (rest.takeWhile p).length) (rest.dropWhile p) := by
  induction rest generalizing column c with
  | nil => simp [runs, holds]
  | cons d rest ih =>
      cases next : p d with
      | true =>
          rw [runs, ih (column + 1) next]
          simp [holds, next, Nat.add_comm, Nat.add_left_comm]
      | false =>
          have later := runs_cons_of_neg (column + 1) next rest
          rw [runs, later, List.takeWhile_cons_of_neg (by simp [next]),
            List.dropWhile_cons_of_neg (by simp [next])]
          cases runs_eq : runs p (column + 2) rest with
          | nil => simp [holds, later, runs_eq]
          | cons run others =>
              have apart : column + 2 ≤ run.2 := by
                apply column_le_of_mem_runs p _ rest
                rw [runs_eq]
                exact List.mem_cons_self
              have separate : run.2 ≠ column + 1 := by omega
              simp [holds, separate, later, runs_eq]

theorem head?_words_of_solid {c : Char} (solid : isBlank c = false) (rest : Text) :
    (words (c :: rest)).head? = some (c :: rest.takeWhile (fun d => !isBlank d)) := by
  have starts : (!isBlank c) = true := by simp [solid]
  rw [words, runs_cons_of_pos (p := fun d => !isBlank d) 0 starts rest]
  rfl

def leadingWord? (text : Text) : Option Text :=
  let word := (trimStart text).takeWhile (fun c => !(isBlank c || c == '#'))
  if word.isEmpty then none else some word

theorem leadingWord?_append (text : Text) {space : Text} (blank : ∀ c ∈ space, isBlank c = true) :
    leadingWord? (text ++ space) = leadingWord? text := by
  have start : trimStart (text ++ space) =
      if (trimStart text).isEmpty then [] else trimStart text ++ space := by
    rw [trimStart, List.dropWhile_append, ← trimStart, ← trimStart, trimStart_of_blank blank]
  have fails : ∀ c ∈ space, (!(isBlank c || c == '#')) = false := by
    intro c member
    simp [blank c member]
  cases rest : trimStart text with
  | nil => simp [leadingWord?, start, rest]
  | cons c after =>
      have kept := takeWhile_append_of_not (c :: after) fails
      simp only [leadingWord?, start, rest, List.isEmpty_cons, Bool.false_eq_true, if_false, kept]

theorem head?_words_trimStart {text : Text} (unmarked : '#' ∉ text) :
    (words (trimStart text)).head? = leadingWord? text := by
  cases start : trimStart text with
  | nil => simp [leadingWord?, start, words, runs]
  | cons c rest =>
      have solid : isBlank c = false := by
        have kept := List.head?_dropWhile_not isBlank text
        rw [← trimStart, start] at kept
        simpa using kept
      have free : '#' ∉ c :: rest := fun member =>
        unmarked ((List.dropWhile_sublist _).subset (start ▸ member))
      have same : ∀ other : Text, '#' ∉ other →
          other.takeWhile (fun d => !(isBlank d || d == '#')) =
            other.takeWhile (fun d => !isBlank d) := by
        intro other clear
        induction other with
        | nil => rfl
        | cons d other ih =>
            rw [List.mem_cons, not_or] at clear
            rw [List.takeWhile_cons, List.takeWhile_cons, ih clear.2]
            simp [Ne.symm clear.1]
      rw [head?_words_of_solid solid, leadingWord?, start, same _ free]
      simp [solid]

end Text

open Text

namespace Content

def mark? : Content → Option Text
  | openTop name => some name
  | closeTop => some []
  | openSub name => some ('.' :: '/' :: name)
  | closeSub => some ['.', '.', '/']
  | _ => none

def typeWord? : Content → Option Text
  | parameter name (some value) =>
      if name = "type".toList then (words value.text).head? else none
  | _ => none

end Content

namespace Line

/-- The text of a row begins with a complete pair of brackets. -/
def Bracketed (row : Text) : Prop :=
  ∃ inner rest, trimStart (uncommented row) = '[' :: (inner ++ ']' :: rest)

theorem bracketed_iff {row : Text} :
    ((trimStart (uncommented row)).head? = some '[' ∧ ']' ∈ (trimStart (uncommented row)).tail) ↔
      Bracketed row := by
  unfold Bracketed
  cases trimStart (uncommented row) with
  | nil => simp
  | cons c text => simp [List.mem_iff_append, exists_and_left]

instance (row : Text) : Decidable (Bracketed row) :=
  decidable_of_iff _ bracketed_iff

theorem tag?_eq_some_iff {text inner : Text} :
    Context.tag? text = some inner ↔
      ']' ∉ inner ∧ ∃ rest, trimStart text = '[' :: (inner ++ ']' :: rest) := by
  constructor
  · intro found
    simp only [Context.tag?] at found
    split at found
    · next after start =>
        split at found
        · next c rest behind =>
            obtain rfl := Option.some.inj found
            obtain rfl : c = ']' := by
              have kept := List.head?_dropWhile_not (· != ']') after
              rw [behind] at kept
              simpa using kept
            refine ⟨fun member => by simpa using List.mem_takeWhile_imp member, rest, ?_⟩
            rw [start, ← behind, List.takeWhile_append_dropWhile]
        · cases found
    · cases found
  · rintro ⟨free, rest, start⟩
    have inside : ∀ c ∈ inner, (c != ']') = true := by
      intro c member
      simpa using fun same : c = ']' => free (same ▸ member)
    simp [Context.tag?, start, List.dropWhile_append_of_pos inside,
      List.takeWhile_append_of_pos inside]

theorem tag?_eq_none_of_not_bracketed {row : Text} (plain : ¬ Bracketed row) :
    Context.tag? (uncommented row) = none := by
  cases found : Context.tag? (uncommented row) with
  | none => rfl
  | some inner =>
      obtain ⟨-, rest, start⟩ := tag?_eq_some_iff.mp found
      exact absurd ⟨inner, rest, start⟩ plain

theorem readTag_cases (text : Text) :
    readTag text = .other ∨
      ∃ mark, (readTag text).mark? = some mark ∧ ']' ∉ mark ∧
        ∃ rest, text = mark ++ ']' :: rest := by
  unfold readTag
  split
  · next name found =>
      obtain ⟨fits, rest, rfl⟩ := (blockName?_eq_some_iff _ name).mp found
      exact .inr ⟨name, rfl, fits.closing_not_mem, rest, rfl⟩
  · split
    · next rest _ => exact .inr ⟨[], rfl, by simp, rest, rfl⟩
    · split
      · next name found =>
          obtain ⟨fits, rest, rfl⟩ := (blockName?_eq_some_iff _ name).mp found
          exact .inr ⟨'.' :: '/' :: name, rfl, by simpa using fits.closing_not_mem, rest, rfl⟩
      · exact .inl rfl
    · next rest _ => exact .inr ⟨['.', '.', '/'], rfl, by simp, rest, rfl⟩
    · exact .inl rfl

theorem readContent_of_ne {c : Char} (noTag : c ≠ '[') (column : Nat) (text : Text) :
    readContent column (c :: text) = readParameter column (c :: text) := by
  unfold readContent
  split
  · next same => exact absurd (List.cons.inj same).1 noTag
  · rfl

theorem mark?_readParameter (column : Nat) (text : Text) :
    (readParameter column text).mark? = none := by
  simp only [readParameter]
  split
  · split
    · rfl
    · split <;> rfl
  · rfl

theorem read_uncommented (row : Text) :
    (trimStart (uncommented row) = [] ∧
      ((read row).content = .blank ∨ (read row).content = .comment)) ∨
    ∃ column c text, isBlank c = false ∧ trimStart (uncommented row) = c :: text ∧
      (read row).content = readContent column (c :: trimEnd text) := by
  cases shape row with
  | blank blank =>
      refine .inl ⟨trimStart_of_blank fun c member => ?_, .inl (by rw [read_blank blank])⟩
      exact blank c ((List.takeWhile_sublist _).subset member)
  | comment blank rest =>
      refine .inl ⟨?_, .inr (by rw [read_comment blank])⟩
      rw [uncommented_append blank, trimStart_append blank]
      simp [uncommented, trimStart]
  | @text space blank c solid notMark rest =>
      refine .inr ⟨space.length, c, uncommented rest, solid, ?_, ?_⟩
      · rw [uncommented_append blank, trimStart_append blank]
        simp [uncommented, notMark, trimStart, solid]
      · rw [read_text blank solid notMark]

theorem tag?_uncommented {row : Text} (plain : (read row).content = .other → ¬ Bracketed row) :
    Context.tag? (uncommented row) = (read row).content.mark? := by
  rcases read_uncommented row with ⟨empty, content⟩ | ⟨column, c, text, solid, start, content⟩
  · rcases content with content | content <;> simp [Context.tag?, empty, content, Content.mark?]
  · by_cases bracket : c = '['
    · subst bracket
      replace content : (read row).content = readTag (trimEnd text) := content
      rcases readTag_cases (trimEnd text) with other | ⟨mark, marked, free, after, same⟩
      · rw [content, other]
        exact tag?_eq_none_of_not_bracketed (plain (content.trans other))
      · obtain ⟨space, -, whole⟩ := exists_trimEnd text
        rw [content, marked, tag?_eq_some_iff]
        refine ⟨free, after ++ space, ?_⟩
        rw [start, whole, same]
        simp
    · rw [content, readContent_of_ne bracket, mark?_readParameter]
      simp [Context.tag?, start, bracket]

theorem typeWord?_readTag (text : Text) : (readTag text).typeWord? = none := by
  rcases readTag_cases text with other | ⟨mark, marked, -⟩
  · rw [other]
    rfl
  · cases content : readTag text <;> simp_all [Content.typeWord?, Content.mark?]

def GivesType (text word : Text) : Prop :=
  ∃ gap value, (∀ c ∈ gap, isBlank c = true) ∧ text = "type".toList ++ (gap ++ '=' :: value) ∧
    leadingWord? value = some word

theorem givesType_trimEnd {text word : Text} :
    GivesType (trimEnd text) word ↔ GivesType text word := by
  constructor
  · rintro ⟨gap, value, blankGap, same, found⟩
    obtain ⟨space, blank, whole⟩ := exists_trimEnd text
    refine ⟨gap, value ++ space, blankGap, ?_, (leadingWord?_append value blank).trans found⟩
    rw [whole, same]
    simp
  · rintro ⟨gap, value, blankGap, rfl, found⟩
    obtain ⟨space, blank, whole⟩ := exists_trimEnd value
    have kept := leadingWord?_append (trimEnd value) blank
    rw [← whole] at kept
    refine ⟨gap, trimEnd value, blankGap, ?_, kept.symm.trans found⟩
    rw [← List.append_assoc, trimEnd_append_cons (by decide), List.append_assoc]

theorem typeWord?_eq_some_iff {row word : Text} :
    Context.typeWord? row = some word ↔ GivesType (trimStart row) word := by
  have opened : Context.typeWord? row =
      (dropStart? "type".toList (trimStart row)).bind fun rest =>
        (dropStart? ['='] (trimStart rest)).bind leadingWord? := rfl
  rw [opened, GivesType]
  simp only [Option.bind_eq_some_iff, dropStart?_eq_some_iff]
  constructor
  · rintro ⟨rest, start, value, behind, found⟩
    refine ⟨rest.takeWhile isBlank, value, isBlank_of_mem_takeWhile rest, ?_, found⟩
    have whole := eq_takeWhile_append_trimStart rest
    rw [behind, List.singleton_append] at whole
    rw [start, ← whole]
  · rintro ⟨gap, value, blank, start, found⟩
    refine ⟨gap ++ '=' :: value, start, value, ?_, found⟩
    rw [trimStart_append blank, trimStart_cons_of_solid (by decide)]
    rfl

theorem cut_name {name gap : Text} (named : ∀ c ∈ name, isNameChar c = true)
    (blank : ∀ c ∈ gap, isBlank c = true) (value : Text) :
    (name ++ (gap ++ '=' :: value)).takeWhile isNameChar = name ∧
      (name ++ (gap ++ '=' :: value)).dropWhile isNameChar = gap ++ '=' :: value := by
  rw [List.takeWhile_append_of_pos named, List.dropWhile_append_of_pos named]
  cases gap with
  | nil => simp [isNameChar]
  | cons d gap => simp [isNameChar, blank d List.mem_cons_self]

theorem typeWord?_readParameter_eq_some_iff {column : Nat} {text word : Text}
    (unbroken : '\n' ∉ text) (unmarked : '#' ∉ text) :
    (readParameter column text).typeWord? = some word ↔ GivesType text word := by
  constructor
  · intro found
    simp only [readParameter] at found
    split at found
    · next after behind =>
        have split : text = text.takeWhile isNameChar ++
            ((text.dropWhile isNameChar).takeWhile isBlank ++ '=' :: after) := by
          rw [← behind, ← eq_takeWhile_append_trimStart, List.takeWhile_append_dropWhile]
        split at found
        · cases found
        · split at found
          · cases found
          · simp only [Content.typeWord?] at found
            split at found
            · next named =>
                rw [head?_words_trimStart] at found
                · exact ⟨_, after, isBlank_of_mem_takeWhile _, named ▸ split, found⟩
                · intro member
                  exact unmarked (by rw [split]; simp [member])
            · cases found
    · cases found
  · rintro ⟨gap, value, blank, rfl, found⟩
    have letters : ∀ c ∈ "type".toList, isNameChar c = true :=
      List.all_eq_true.mp (by decide)
    obtain ⟨taken, left⟩ := cut_name letters blank value
    have free : '\n' ∉ trimStart value := fun member =>
      unbroken (by simp [(List.dropWhile_sublist _).subset member])
    have words : (words (trimStart value)).head? = some word := by
      rw [head?_words_trimStart (fun member => unmarked (by simp [member])), found]
    cases start : trimStart value with
    | nil => simp [start, Text.words, runs] at words
    | cons c rest =>
        rw [start] at free words
        simp only [readParameter, taken, left, trimStart_append blank,
          trimStart_cons_of_solid (show isBlank '=' = false by decide), start]
        simp [free, Content.typeWord?, words]

theorem typeWord?_uncommented {row : Text} (unbroken : '\n' ∉ row) :
    Context.typeWord? (uncommented row) = (read row).content.typeWord? := by
  rcases read_uncommented row with ⟨empty, content⟩ | ⟨column, c, text, solid, start, content⟩
  · have none : Context.typeWord? (uncommented row) = none := by
      simp [Context.typeWord?, empty, dropStart?]
    rcases content with content | content <;> simp [none, content, Content.typeWord?]
  · by_cases bracket : c = '['
    · subst bracket
      rw [content, readContent, typeWord?_readTag]
      simp [Context.typeWord?, start, dropStart?]
    · rw [content, readContent_of_ne bracket]
      have body : trimEnd (c :: text) = c :: trimEnd text := trimEnd_append_cons solid [] text
      have inside : ∀ d ∈ trimEnd (c :: text), d ∈ uncommented row := by
        intro d member
        obtain ⟨space, -, whole⟩ := exists_trimEnd (c :: text)
        have shown : d ∈ trimStart (uncommented row) := by
          rw [start, whole]
          exact List.mem_append_left space member
        exact (List.dropWhile_sublist _).subset shown
      have unmarked : '#' ∉ trimEnd (c :: text) := fun member => by
        simpa using List.mem_takeWhile_imp (inside '#' member)
      have free : '\n' ∉ trimEnd (c :: text) := fun member =>
        unbroken ((List.takeWhile_sublist _).subset (inside '\n' member))
      rw [← body]
      ext word
      rw [typeWord?_eq_some_iff, typeWord?_readParameter_eq_some_iff free unmarked, start,
        givesType_trimEnd]

end Line

end InputDeck
