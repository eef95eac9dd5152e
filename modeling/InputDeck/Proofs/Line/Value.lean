import InputDeck.Proofs.Line.Assignment
import InputDeck.Proofs.Text.Search

/-!
The value of a parameter.  It stands between two characters that are not blank, behind the name;
its first word is the value without quotation marks only where it has neither blanks nor marks at
its ends.
-/

namespace InputDeck

namespace Text

/-- A text that is not empty and has no white space at its ends. -/
structure Tight (text : Text) : Prop where
  nonempty : text ≠ []
  trimmed : trim text = text

/-- A value of one word without quotation marks at its ends. -/
structure Bare (text : Text) : Prop where
  word : ∀ c ∈ text, isBlank c = false
  first : ∀ c, text.head? = some c → isQuote c = false
  last : ∀ c, text.getLast? = some c → isQuote c = false

section Trim

variable {p : Char → Bool} {text : Text}

theorem dropWhile_eq_self_iff :
    text.dropWhile p = text ↔ ∀ c, text.head? = some c → p c = false := by
  rw [List.dropWhile_eq_self_iff]
  cases text <;> simp

theorem dropEndWhile_eq_self_iff :
    dropEndWhile p text = text ↔ ∀ c, text.getLast? = some c → p c = false := by
  rw [dropEndWhile, List.reverse_eq_iff, dropWhile_eq_self_iff, List.head?_reverse]

theorem length_dropEndWhile_le (p : Char → Bool) (text : Text) :
    (dropEndWhile p text).length ≤ text.length := by
  calc
    (dropEndWhile p text).length = (text.reverse.dropWhile p).length := List.length_reverse
    _ ≤ text.reverse.length := (List.dropWhile_sublist p).length_le
    _ = text.length := List.length_reverse

theorem length_trimBy_le (p : Char → Bool) (text : Text) :
    (trimBy p text).length ≤ text.length :=
  (length_dropEndWhile_le p _).trans (List.dropWhile_sublist p).length_le

theorem trimBy_eq_self_iff : trimBy p text = text ↔
    (∀ c, text.head? = some c → p c = false) ∧ ∀ c, text.getLast? = some c → p c = false := by
  rw [← dropWhile_eq_self_iff, ← dropEndWhile_eq_self_iff]
  constructor
  · intro same
    have front : (text.dropWhile p).length ≤ text.length := (List.dropWhile_sublist _).length_le
    have back : (trimBy p text).length ≤ (text.dropWhile p).length :=
      length_dropEndWhile_le p _
    have kept : text.dropWhile p = text :=
      (List.dropWhile_sublist _).eq_of_length (by rw [same] at back; omega)
    exact ⟨kept, by rwa [trimBy, kept] at same⟩
  · rintro ⟨front, back⟩
    rw [trimBy, front, back]

theorem mem_dropWhile {c : Char} (member : c ∈ text) (fails : p c = false) :
    c ∈ text.dropWhile p := by
  rw [← List.takeWhile_append_dropWhile (p := p) (l := text), List.mem_append] at member
  rcases member with taken | left
  · rw [List.mem_takeWhile_imp taken] at fails
    cases fails
  · exact left

theorem mem_trimBy {c : Char} (member : c ∈ text) (fails : p c = false) : c ∈ trimBy p text :=
  List.mem_reverse.mpr <| mem_dropWhile (List.mem_reverse.mpr (mem_dropWhile member fails)) fails

end Trim

/-- Runs are maximal, so that at least one character lies between two of them. -/
theorem pairwise_runs (p : Char → Bool) (column : Nat) (text : Text) :
    (runs p column text).Pairwise (fun first second => first.2 + first.1.length < second.2) := by
  induction text generalizing column with
  | nil => exact .nil
  | cons c text ih =>
      have apart := ih (column + 1)
      have right : ∀ run ∈ runs p (column + 1) text, column + 1 ≤ run.2 :=
        fun run => column_le_of_mem_runs p (column + 1) text
      simp only [runs]
      split
      · split
        · next word start more later =>
            rw [later] at apart right
            rw [List.pairwise_cons] at apart
            have first := right _ List.mem_cons_self
            split
            · next adjoins =>
                refine List.pairwise_cons.mpr ⟨fun run member => ?_, apart.2⟩
                have gap := apart.1 run member
                simp only [List.length_cons] at gap ⊢
                omega
            · next separate =>
                rw [later]
                refine List.pairwise_cons.mpr ⟨fun run member => ?_, List.pairwise_cons.mpr apart⟩
                rcases List.mem_cons.mp member with rfl | inside
                · simp only [List.length_singleton] at first ⊢
                  omega
                · have gap := apart.1 run inside
                  simp only [List.length_singleton] at first gap ⊢
                  omega
        · exact List.pairwise_singleton _ _
      · exact apart

theorem stop_le_of_mem_runs {p : Char → Bool} {column : Nat} {text : Text} {run : Text × Nat}
    (member : run ∈ runs p column text) : run.2 + run.1.length ≤ column + text.length := by
  induction text generalizing column run with
  | nil => cases member
  | cons c text ih =>
      have later : ∀ other ∈ runs p (column + 1) text,
          other.2 + other.1.length ≤ column + (c :: text).length := by
        intro other inside
        have bound := ih inside
        rw [List.length_cons]
        omega
      simp only [runs] at member
      split at member
      · split at member
        · next word start more split =>
            have first := later (word, start) (split ▸ List.mem_cons_self)
            split at member
            · rcases List.mem_cons.mp member with rfl | inside
              · simp only [List.length_cons] at first ⊢
                omega
              · exact later run (split ▸ List.mem_cons_of_mem _ inside)
            · rcases List.mem_cons.mp member with rfl | inside
              · simp only [List.length_cons, List.length_nil]
                omega
              · exact later run inside
        · rw [List.mem_singleton.mp member]
          simp only [List.length_cons, List.length_nil]
          omega
      · exact later run member

theorem find?_runs {p : Char → Bool} {column : Nat} {text : Text} {run : Text × Nat}
    (member : run ∈ runs p column text) :
    (runs p column text).find? (fun other => other.2 ≤ run.2 && run.2 ≤ other.2 + other.1.length) =
      some run := by
  obtain ⟨before, after, whole⟩ := List.append_of_mem member
  have apart := pairwise_runs p column text
  rw [whole, List.pairwise_append] at apart
  rw [whole, List.find?_eq_some_iff_append]
  refine ⟨by simp, before, after, rfl, fun other earlier => ?_⟩
  have gap := apart.2.2 other earlier run List.mem_cons_self
  simp
  omega

theorem isBlank_of_head?_trimStart {text : Text} {c : Char}
    (first : (trimStart text).head? = some c) : isBlank c = false := by
  have kept := List.head?_dropWhile_not isBlank text
  rwa [← trimStart, first] at kept

theorem isBlank_of_getLast?_trimEnd {text : Text} {c : Char}
    (last : (trimEnd text).getLast? = some c) : isBlank c = false := by
  rw [trimEnd, dropEndWhile, List.getLast?_reverse] at last
  exact isBlank_of_head?_trimStart last

theorem Tight.head?_words {text : Text} (tight : Tight text) :
    (words text).head? = some (text.takeWhile (fun c => !isBlank c)) := by
  obtain ⟨c, rest, rfl⟩ := List.exists_cons_of_ne_nil tight.nonempty
  have solid : isBlank c = false := (trimBy_eq_self_iff.mp tight.trimmed).1 c rfl
  rw [head?_words_of_solid solid]
  simp [solid]

theorem isQuote_of_isBlank {c : Char} (blank : isBlank c = true) : isQuote c = false := by
  rw [isQuote, Bool.or_eq_false_iff]
  constructor <;> · rw [beq_eq_false_iff_ne]; rintro rfl; exact absurd blank (by decide)

section Unquote

variable {text : Text}

theorem length_unquote_le (text : Text) : (unquote text).length ≤ text.length := by
  have trimmed := length_trimBy_le isBlank text
  rw [← trim] at trimmed
  simp only [unquote]
  split
  · split
    · rw [List.length_dropLast, List.length_tail]
      omega
    · exact (length_trimBy_le isQuote _).trans trimmed
  · exact Nat.zero_le _

theorem length_le_of_mem_unquotedWords {word : Text} (member : word ∈ unquotedWords text) :
    word.length ≤ text.length := by
  obtain ⟨run, inside, rfl⟩ := List.mem_map.mp member
  have within := stop_le_of_mem_runs inside
  have unquoted := length_unquote_le text
  omega

theorem unquote_of_tight (tight : Tight text) :
    (∃ mark inner, isQuote mark = true ∧ text = mark :: (inner ++ [mark]) ∧ unquote text = inner) ∨
      unquote text = trimBy isQuote text := by
  have trimmed := tight.trimmed
  obtain ⟨first, rest, rfl⟩ := List.exists_cons_of_ne_nil tight.nonempty
  rcases List.eq_nil_or_concat rest with rfl | ⟨inner, last, rfl⟩
  · exact .inr (by simp [unquote, trimmed])
  · rw [List.concat_eq_append] at trimmed ⊢
    have ending : (first :: (inner ++ [last])).getLast? = some last := by
      simp [List.getLast?_cons]
    by_cases pair : first = last ∧ isQuote first = true
    · obtain ⟨rfl, quoted⟩ := pair
      exact .inl ⟨first, inner, quoted, rfl, by simp [unquote, trimmed, ending, quoted]⟩
    · exact .inr (by simp [unquote, trimmed, ending, pair])

theorem unquote_eq_self_iff (tight : Tight text) :
    unquote text = text ↔ (∀ c, text.head? = some c → isQuote c = false) ∧
      ∀ c, text.getLast? = some c → isQuote c = false := by
  rcases unquote_of_tight tight with ⟨mark, inner, quoted, rfl, inside⟩ | stripped
  · rw [inside]
    constructor
    · intro same
      have length := congrArg List.length same
      simp at length
      omega
    · rintro ⟨first, -⟩
      rw [first mark rfl] at quoted
      cases quoted
  · rw [stripped, trimBy_eq_self_iff]

theorem mem_unquote (tight : Tight text) {c : Char} (member : c ∈ text)
    (unmarked : isQuote c = false) : c ∈ unquote text := by
  rcases unquote_of_tight tight with ⟨mark, inner, quoted, rfl, inside⟩ | stripped
  · rw [inside]
    have different : c ≠ mark := by
      rintro rfl
      rw [unmarked] at quoted
      cases quoted
    simpa [different] using member
  · rw [stripped]
    exact mem_trimBy member unmarked

theorem head?_words_eq_unquote_iff (tight : Tight text) :
    (words text).head? = some (unquote text) ↔ Bare text := by
  rw [tight.head?_words, Option.some.injEq]
  constructor
  · intro same
    have word : ∀ c ∈ text, isBlank c = false := by
      intro c member
      by_contra solid
      have blank : isBlank c = true := by simpa using solid
      have inside := mem_unquote tight member (isQuote_of_isBlank blank)
      rw [← same] at inside
      simpa [blank] using List.mem_takeWhile_imp inside
    have whole : text.takeWhile (fun c => !isBlank c) = text := by
      simpa [List.takeWhile_eq_self_iff] using word
    have ends := (unquote_eq_self_iff tight).mp (same.symm.trans whole)
    exact ⟨word, ends.1, ends.2⟩
  · intro bare
    have whole : text.takeWhile (fun c => !isBlank c) = text := by
      simpa [List.takeWhile_eq_self_iff] using bare.word
    rw [whole, (unquote_eq_self_iff tight).mpr ⟨bare.first, bare.last⟩]

end Unquote

end Text

namespace Line

open Text

theorem readParameter_value {column : Nat} {text name : Text} {value : Placed}
    (reads : readParameter column text = .parameter name (some value)) :
    ∃ before, text = before ++ value.text ∧ value.column = column + before.length ∧
      name.length < before.length ∧ value.text ≠ [] ∧
      ∀ c, value.text.head? = some c → isBlank c = false := by
  simp only [readParameter] at reads
  split at reads
  · next after behind =>
      split at reads
      · cases reads
      · split at reads
        · cases reads
        · next nonempty =>
            obtain ⟨rfl, same⟩ := Content.parameter.inj reads
            obtain rfl := Option.some.inj same
            have named := List.takeWhile_append_dropWhile (p := isNameChar) (l := text)
            have spaced := eq_takeWhile_append_trimStart (text.dropWhile isNameChar)
            have padded := eq_takeWhile_append_trimStart after
            rw [behind] at spaced
            have whole : text = (text.takeWhile isNameChar ++
                ((text.dropWhile isNameChar).takeWhile isBlank ++
                  '=' :: after.takeWhile isBlank)) ++ trimStart after := by
              rw [List.append_assoc, List.append_assoc, List.cons_append, ← padded, ← spaced, named]
            have length := congrArg List.length whole
            rw [List.length_append] at length
            refine ⟨_, whole, ?_, ?_, by simpa using nonempty, ?_⟩
            · simp only
              omega
            · rw [List.length_append, List.length_append, List.length_cons]
              omega
            · exact fun c first => isBlank_of_head?_trimStart first
  · cases reads

theorem exists_readContent {row name : Text} (named : (read row).content.name? = some name) :
    ∃ text, (read row).content = readContent (read row).indent text ∧
      (read row).stop = (read row).indent + text.length ∧ StandsAt text (read row).indent row ∧
      '#' ∉ text ∧ ∀ c, text.getLast? = some c → isBlank c = false := by
  cases shape row with
  | blank blank =>
      rw [read_blank blank] at named
      cases named
  | comment blank rest =>
      rw [read_comment blank] at named
      cases named
  | @text space blank c solid notMark rest =>
      have ended : trimEnd (c :: uncommented rest) = c :: trimEnd (uncommented rest) :=
        trimEnd_append_cons solid [] (uncommented rest)
      have body : c :: trimEnd (uncommented rest) <+: uncommented (c :: rest) := by
        rw [uncommented_cons notMark, ← ended]
        exact isPrefix_trimEnd _
      rw [read_text blank solid notMark]
      refine ⟨_, rfl, by simp [Nat.add_assoc], ?_, fun member => ?_, fun d last => ?_⟩
      · obtain ⟨after, whole⟩ := body.trans (List.takeWhile_prefix _)
        refine ⟨space, after, ?_, rfl⟩
        rw [List.append_assoc, whole]
      · simpa using List.mem_takeWhile_imp (body.subset member)
      · rw [← ended] at last
        exact isBlank_of_getLast?_trimEnd last

theorem readParameter_of_readContent {column : Nat} {text name : Text} {value : Option Placed}
    (reads : readContent column text = .parameter name value) :
    readParameter column text = .parameter name value := by
  unfold readContent at reads
  split at reads
  · next rest =>
      rcases readTag_cases rest with other | ⟨mark, marked, -⟩
      · rw [other] at reads
        cases reads
      · rw [reads] at marked
        cases marked
  · exact reads

theorem exists_readParameter {row name : Text} {value : Option Placed}
    (reads : (read row).content = .parameter name value) :
    ∃ text, readParameter (read row).indent text = .parameter name value ∧
      (read row).stop = (read row).indent + text.length ∧ StandsAt text (read row).indent row ∧
      '#' ∉ text ∧ ∀ c, text.getLast? = some c → isBlank c = false := by
  have named : (read row).content.name? = some name := by rw [reads]; rfl
  obtain ⟨text, content, placed⟩ := exists_readContent named
  exact ⟨text, readParameter_of_readContent (content.symm.trans reads), placed⟩

theorem value_of_parameter {row name : Text} {value : Placed}
    (reads : (read row).content = .parameter name (some value)) :
    Tight value.text ∧ (read row).indent + name.length < value.column := by
  obtain ⟨text, parameter, -, -, -, ended⟩ := exists_readParameter reads
  obtain ⟨before, rfl, column, behind, nonempty, first⟩ := readParameter_value parameter
  refine ⟨⟨nonempty, trimBy_eq_self_iff.mpr ⟨first, fun c last => ended c ?_⟩⟩, by omega⟩
  rw [List.getLast?_append, last]
  rfl

theorem standsAt_value_of_parameter {row name : Text} {value : Placed}
    (reads : (read row).content = .parameter name (some value)) :
    StandsAt value.text value.column row := by
  obtain ⟨text, parameter, -, stands, -⟩ := exists_readParameter reads
  obtain ⟨before, rfl, column, -⟩ := readParameter_value parameter
  rw [column]
  exact stands.trans ⟨before, [], (List.append_nil _).symm, rfl⟩

theorem unmarked_value_of_parameter {row name : Text} {value : Placed}
    (reads : (read row).content = .parameter name (some value)) : '#' ∉ value.text := by
  obtain ⟨text, parameter, -, -, unmarked, -⟩ := exists_readParameter reads
  obtain ⟨before, rfl, -⟩ := readParameter_value parameter
  exact fun member => unmarked (List.mem_append_right before member)

theorem value_stop_of_parameter {row name : Text} {value : Placed}
    (reads : (read row).content = .parameter name (some value)) :
    value.column + value.text.length = (read row).stop := by
  obtain ⟨text, parameter, stop, -⟩ := exists_readParameter reads
  obtain ⟨before, rfl, column, -⟩ := readParameter_value parameter
  rw [stop, column, List.length_append, Nat.add_assoc]

theorem name_of_readParameter {column : Nat} {text name : Text} {value : Option Placed}
    (reads : readParameter column text = .parameter name value) :
    name = text.takeWhile isNameChar := by
  simp only [readParameter] at reads
  split at reads
  · split at reads
    · cases reads
    · split at reads
      · exact (Content.parameter.inj reads).1.symm
      · exact (Content.parameter.inj reads).1.symm
  · cases reads

theorem name_le_of_parameter {row name : Text} {value : Option Placed}
    (reads : (read row).content = .parameter name value) :
    (read row).indent + name.length ≤ (read row).stop := by
  obtain ⟨text, parameter, stop, -⟩ := exists_readParameter reads
  have within := (List.takeWhile_sublist (l := text) isNameChar).length_le
  rw [stop, name_of_readParameter parameter]
  omega

theorem valueWords_of_value? {line : Line} {value : Placed}
    (given : line.content.value? = some value) : line.valueWords = value.words := by
  rw [valueWords, given]

end Line

end InputDeck
