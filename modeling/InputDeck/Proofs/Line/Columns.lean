import InputDeck.Proofs.Line.Words

/-!
The columns of a line.  Whatever a row is read as, the name, the value and the words of the value
stand in the row at the columns that the line gives for them, and nothing of the value is lost
between its words but white space and quotation marks.
-/

namespace InputDeck

open Text

/-- The words stand in the row one behind the other, and they are all of the value but its white
space and its quotation marks. -/
structure Placed.CutInto (value : Placed) (words : List (Text × Nat)) (row : Text) : Prop where
  apart : words.Pairwise (fun first second => first.2 + first.1.length < second.2)
  stands : ∀ word ∈ words, StandsAt word.1 word.2 row
  solid : ∀ word ∈ words, word.1 ≠ [] ∧ ∀ c ∈ word.1, isBlank c = false ∧ isQuote c = false
  covered : ∀ offset c, value.text[offset]? = some c → isBlank c = false → isQuote c = false →
    ∃ word ∈ words, word.2 ≤ value.column + offset ∧ value.column + offset < word.2 + word.1.length
  spelled : (words.map Prod.fst).flatten = value.text.filter (fun c => !(isBlank c || isQuote c))

theorem Placed.cutInto_words {value : Placed} {row : Text}
    (stands : StandsAt value.text value.column row) : value.CutInto value.words row where
  apart := pairwise_runs _ value.column value.text
  stands := fun word member => standsAt_of_mem_words stands member
  solid := by
    intro word member
    have listed := List.mem_map_of_mem (f := Prod.fst) member
    rw [map_fst_words] at listed
    obtain ⟨nonempty, all⟩ := of_mem_pieces listed
    refine ⟨nonempty, fun c inside => ?_⟩
    have inClass := all c inside
    rwa [Bool.not_eq_true', Bool.or_eq_false_iff] at inClass
  covered := by
    intro offset c here solid unquoted
    refine exists_run_of_getElem? here ?_
    rw [solid, unquoted]
    rfl
  spelled := by
    rw [map_fst_words, flatten_pieces]

namespace Line

/-- The columns of a line point to what it says in the row. -/
structure TrueTo (line : Line) (row : Text) : Prop where
  indent_le_stop : line.indent ≤ line.stop
  stop_le_length : line.stop ≤ row.length
  name : ∀ name, line.content.name? = some name → StandsAt name line.nameColumn row
  value : ∀ value, line.content.value? = some value →
    StandsAt value.text value.column row ∧ value.column + value.text.length = line.stop ∧
      '#' ∉ value.text ∧ Tight value.text
  words : ∀ value, line.content.value? = some value → value.CutInto line.valueWords row
  wordless : line.content.value? = none → line.valueWords = []

section Name

variable {column : Nat} {text row name : Text}

theorem standsAt_tag (level : Level) (name rest : Text) :
    StandsAt name (level.opening name).nameOffset (level.tag name ++ rest) := by
  refine ⟨level.bracket, ']' :: rest, ?_, ?_⟩
  · rw [Level.tag, List.append_assoc, List.singleton_append]
  · cases level <;> rfl

theorem standsAt_of_opening (level : Level) (reads : readContent column text = level.opening name) :
    StandsAt name (readContent column text).nameOffset text := by
  obtain ⟨-, rest, rfl⟩ := (readContent_eq_opening_iff column level name text).mp reads
  rw [reads]
  exact standsAt_tag level name rest

theorem standsAt_of_parameter {value : Option Placed}
    (reads : readContent column text = .parameter name value) : StandsAt name 0 text := by
  rw [standsAt_zero, name_of_readParameter (readParameter_of_readContent reads)]
  exact List.takeWhile_prefix _

theorem standsAt_name (named : (readContent column text).name? = some name) :
    StandsAt name (readContent column text).nameOffset text := by
  cases content : readContent column text with
  | openTop other =>
      rw [content] at named
      obtain rfl := Option.some.inj named
      exact content ▸ standsAt_of_opening .top content
  | openSub other =>
      rw [content] at named
      obtain rfl := Option.some.inj named
      exact content ▸ standsAt_of_opening .sub content
  | parameter other value =>
      rw [content] at named
      obtain rfl := Option.some.inj named
      exact standsAt_of_parameter content
  | closeTop | closeSub | comment | blank | other =>
      rw [content] at named
      cases named

theorem standsAt_nameColumn (named : (read row).content.name? = some name) :
    StandsAt name (read row).nameColumn row := by
  obtain ⟨text, content, -, stands, -⟩ := exists_readContent named
  have inside : StandsAt name (read row).content.nameOffset text := by
    rw [content] at named ⊢
    exact standsAt_name named
  exact stands.trans inside

end Name

theorem parameter_of_value? {content : Content} {value : Placed}
    (given : content.value? = some value) :
    ∃ name, content = .parameter name (some value) := by
  cases content with
  | parameter name other => exact ⟨name, congrArg (Content.parameter name) given⟩
  | openTop _ | closeTop | openSub _ | closeSub | comment | blank | other => cases given

/-- Each row is read with columns that are true to it. -/
theorem read_trueTo (row : Text) : (read row).TrueTo row where
  indent_le_stop := indent_read_le_stop row
  stop_le_length := stop_read_le row
  name := fun _ named => standsAt_nameColumn named
  value := by
    intro value given
    obtain ⟨name, reads⟩ := parameter_of_value? given
    exact ⟨standsAt_value_of_parameter reads, value_stop_of_parameter reads,
      unmarked_value_of_parameter reads, (value_of_parameter reads).1⟩
  words := by
    intro value given
    obtain ⟨name, reads⟩ := parameter_of_value? given
    rw [valueWords_of_value? given]
    exact Placed.cutInto_words (standsAt_value_of_parameter reads)
  wordless := by
    intro given
    rw [valueWords, given]

end Line

end InputDeck
