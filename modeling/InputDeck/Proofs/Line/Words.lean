import InputDeck.Proofs.Line.Value
import InputDeck.Proofs.Text.Runs

/-!
The words of a value, read in two ways.  With their columns they are cut at white space and at
quotation marks; without, the marks at the ends are removed and the rest is cut at white space only.
The second way leaves marks inside a word; cut at these, its words are those of the first way.
-/

namespace InputDeck

namespace Text

def QuoteFree (text : Text) : Prop :=
  ∀ c ∈ text, isQuote c = false

instance (text : Text) : Decidable (QuoteFree text) :=
  inferInstanceAs (Decidable (∀ c ∈ text, isQuote c = false))

theorem exists_trimBy (p : Char → Bool) (text : Text) :
    ∃ front back, text = front ++ trimBy p text ++ back ∧ (∀ c ∈ front, p c = true) ∧
      ∀ c ∈ back, p c = true := by
  refine ⟨text.takeWhile p, ((text.dropWhile p).reverse.takeWhile p).reverse, ?_,
    fun c member => List.mem_takeWhile_imp member,
    fun c member => List.mem_takeWhile_imp (List.mem_reverse.mp member)⟩
  rw [trimBy, dropEndWhile, List.append_assoc, ← List.reverse_append,
    List.takeWhile_append_dropWhile, List.reverse_reverse, List.takeWhile_append_dropWhile]

section Words

variable {text : Text}

theorem exists_unquote (tight : Tight text) :
    ∃ front back, text = front ++ unquote text ++ back ∧ (∀ c ∈ front, isQuote c = true) ∧
      ∀ c ∈ back, isQuote c = true := by
  rcases unquote_of_tight tight with ⟨mark, inner, quoted, whole, inside⟩ | stripped
  · refine ⟨[mark], [mark], ?_, ?_, ?_⟩
    · rw [inside, whole]
      simp
    · simpa using quoted
    · simpa using quoted
  · rw [stripped]
    exact exists_trimBy isQuote text

theorem map_fst_words (value : Placed) :
    value.words.map Prod.fst = pieces (fun c => !(isBlank c || isQuote c)) value.text :=
  map_fst_runs value.column value.text

theorem standsAt_of_mem_words {row : Text} {value : Placed}
    (stands : StandsAt value.text value.column row) {run : Text × Nat}
    (member : run ∈ value.words) : StandsAt run.1 run.2 row := by
  obtain ⟨before, after, split, place⟩ := exists_split_of_mem_runs member
  rw [place]
  exact stands.trans ⟨before, after, split, rfl⟩

/-- The words of a value are what quotation marks leave of its words without the outer ones. -/
theorem map_fst_words_eq_flatMap {value : Placed} (tight : Tight value.text) :
    value.words.map Prod.fst =
      (unquotedWords value.text).flatMap (pieces (fun c => !isQuote c)) := by
  obtain ⟨front, back, whole, marksBefore, marksBehind⟩ := exists_unquote tight
  have none : ∀ marks : Text, (∀ c ∈ marks, isQuote c = true) →
      ∀ c ∈ marks, (!(isBlank c || isQuote c)) = false := by
    intro marks all c member
    simp [all c member]
  calc
    value.words.map Prod.fst =
        pieces (fun c => !(isBlank c || isQuote c)) (front ++ unquote value.text ++ back) := by
      rw [map_fst_words, ← whole]
    _ = pieces (fun c => !(isBlank c || isQuote c)) (unquote value.text) := by
      rw [pieces_append_of_forall_not_right _ (none back marksBehind),
        pieces_append_of_forall_not (none front marksBefore)]
    _ = pieces (fun c => !isBlank c && !isQuote c) (unquote value.text) :=
      pieces_congr fun c _ => Bool.not_or (isBlank c) (isQuote c)
    _ = (unquotedWords value.text).flatMap (pieces (fun c => !isQuote c)) :=
      pieces_and (unquote value.text)

theorem pieces_unquotedWord {word : Text} (member : word ∈ unquotedWords text)
    (free : QuoteFree word) : pieces (fun c => !isQuote c) word = [word] := by
  refine pieces_of_forall (of_mem_pieces member).1 fun c inside => ?_
  rw [free c inside]
  rfl

theorem quoteFree_of_mem_words {value : Placed} {run : Text × Nat} (member : run ∈ value.words) :
    QuoteFree run.1 := by
  intro c inside
  have inClass := (of_mem_pieces (map_fst_words value ▸ List.mem_map_of_mem member)).2 c inside
  simp only [Bool.not_or, Bool.and_eq_true, Bool.not_eq_true'] at inClass
  exact inClass.2

theorem map_fst_words_eq_iff {value : Placed} (tight : Tight value.text) :
    value.words.map Prod.fst = unquotedWords value.text ↔ QuoteFree (unquote value.text) := by
  constructor
  · intro same c member
    by_contra marked
    rw [Bool.not_eq_false] at marked
    have solid : (!isBlank c) = true := by
      cases blank : isBlank c with
      | false => rfl
      | true =>
          rw [isQuote_of_isBlank blank] at marked
          cases marked
    obtain ⟨word, among, inside⟩ :=
      exists_piece_of_mem (p := fun c => !isBlank c) member solid
    have listed : word ∈ value.words.map Prod.fst := same ▸ among
    obtain ⟨run, placed, rfl⟩ := List.mem_map.mp listed
    rw [quoteFree_of_mem_words placed c inside] at marked
    cases marked
  · intro free
    rw [map_fst_words_eq_flatMap tight]
    have whole : ∀ word ∈ unquotedWords value.text, pieces (fun c => !isQuote c) word = [word] :=
      fun word member => pieces_unquotedWord member
        fun c inside => free c (mem_of_mem_pieces member inside)
    rw [List.flatMap_def, List.map_congr_left whole, ← List.flatMap_def, List.flatMap_singleton']

theorem exists_lookup_words_iff {value : Placed} (tight : Tight value.text) {word : Text}
    (member : word ∈ unquotedWords value.text) :
    (∃ column, value.words.lookup word = some column) ↔ QuoteFree word := by
  constructor
  · rintro ⟨column, found⟩
    obtain ⟨before, after, whole, -⟩ := List.lookup_eq_some_iff.mp found
    exact quoteFree_of_mem_words (whole ▸ List.mem_append_right before List.mem_cons_self)
  · intro free
    have placed : word ∈ value.words.map Prod.fst := by
      rw [map_fst_words_eq_flatMap tight]
      refine List.mem_flatMap.mpr ⟨word, member, ?_⟩
      rw [pieces_unquotedWord member free]
      exact List.mem_singleton_self word
    obtain ⟨run, inside, rfl⟩ := List.mem_map.mp placed
    rw [← Option.isSome_iff_exists, List.lookup_isSome_iff]
    exact ⟨run, inside, beq_self_eq_true run.1⟩

end Words

end Text

end InputDeck
