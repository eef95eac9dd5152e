import InputDeck.Proofs.Line.Marks

/-!
Runs of characters of a class.  A text is taken apart from left to right: a character outside the
class is left out, and a character of the class starts a run that goes on as long as it can.  So a
run stands in the text at its column and consists of characters of the class, and each such
character is in some run.
-/

namespace InputDeck

namespace Text

def pieces (p : Char → Bool) (text : Text) : List Text :=
  (runs p 0 text).map Prod.fst

section Runs

variable {p q : Char → Bool}

/-- Taking a text apart: characters outside the class one by one, the others run by run. -/
theorem runs_induction {motive : Text → Prop} (nil : motive [])
    (skip : ∀ c rest, p c = false → motive rest → motive (c :: rest))
    (run : ∀ c rest, p c = true → motive (rest.dropWhile p) → motive (c :: rest)) :
    ∀ text, motive text
  | [] => nil
  | c :: rest =>
      match holds : p c with
      | false => skip c rest holds (runs_induction nil skip run rest)
      | true => run c rest holds (runs_induction nil skip run (rest.dropWhile p))
termination_by text => text.length
decreasing_by
  · exact Nat.lt_succ_self _
  · exact Nat.lt_succ_of_le (List.dropWhile_sublist p).length_le

theorem map_fst_runs (column : Nat) (text : Text) :
    (runs p column text).map Prod.fst = pieces p text := by
  suffices same : ∀ first second, (runs p first text).map Prod.fst =
      (runs p second text).map Prod.fst from same column 0
  induction text using runs_induction (p := p) with
  | nil => exact fun _ _ => rfl
  | skip c rest fails ih =>
      intro first second
      rw [runs_cons_of_neg _ fails, runs_cons_of_neg _ fails]
      exact ih _ _
  | run c rest holds ih =>
      intro first second
      rw [runs_cons_of_pos _ holds, runs_cons_of_pos _ holds]
      exact congrArg (_ :: ·) (ih _ _)

theorem exists_split_of_mem_runs {column : Nat} {text : Text} {run : Text × Nat}
    (member : run ∈ runs p column text) :
    ∃ before after, text = before ++ run.1 ++ after ∧ run.2 = column + before.length := by
  induction text using runs_induction (p := p) generalizing column with
  | nil => cases member
  | skip c rest fails ih =>
      rw [runs_cons_of_neg _ fails] at member
      obtain ⟨before, after, rfl, place⟩ := ih member
      exact ⟨c :: before, after, rfl, by rw [place, List.length_cons]; omega⟩
  | run c rest holds ih =>
      rw [runs_cons_of_pos _ holds] at member
      rcases List.mem_cons.mp member with rfl | later
      · refine ⟨[], rest.dropWhile p, ?_, rfl⟩
        simp [List.takeWhile_append_dropWhile]
      · obtain ⟨before, after, split, place⟩ := ih later
        refine ⟨c :: rest.takeWhile p ++ before, after, ?_, ?_⟩
        · rw [List.append_assoc, List.append_assoc, ← List.append_assoc before, ← split,
            List.cons_append, List.takeWhile_append_dropWhile]
        · rw [place, List.length_append, List.length_cons]
          omega

theorem exists_run_of_getElem? {column offset : Nat} {text : Text} {c : Char}
    (here : text[offset]? = some c) (holds : p c = true) :
    ∃ run ∈ runs p column text,
      run.2 ≤ column + offset ∧ column + offset < run.2 + run.1.length := by
  induction text using runs_induction (p := p) generalizing column offset with
  | nil => cases here
  | skip d rest fails ih =>
      rw [runs_cons_of_neg _ fails]
      cases offset with
      | zero =>
          obtain rfl := Option.some.inj here
          rw [holds] at fails
          cases fails
      | succ offset =>
          obtain ⟨run, member, first, last⟩ := @ih (column + 1) offset here
          exact ⟨run, member, by omega, by omega⟩
  | run d rest first ih =>
      rw [runs_cons_of_pos _ first]
      by_cases inside : offset < (d :: rest.takeWhile p).length
      · exact ⟨_, List.mem_cons_self, Nat.le_add_right _ _, Nat.add_lt_add_left inside column⟩
      · have whole : d :: rest = (d :: rest.takeWhile p) ++ rest.dropWhile p := by
          rw [List.cons_append, List.takeWhile_append_dropWhile]
        rw [whole, List.getElem?_append_right (Nat.le_of_not_lt inside)] at here
        obtain ⟨run, member, starts, ends⟩ :=
          @ih (column + 1 + (rest.takeWhile p).length) _ here
        rw [List.length_cons] at inside starts ends
        exact ⟨run, List.mem_cons_of_mem _ member, by omega, by omega⟩

end Runs

section Pieces

variable {p q : Char → Bool}

@[simp]
theorem pieces_nil : pieces p [] = [] := rfl

theorem pieces_cons_of_neg {c : Char} (fails : p c = false) (rest : Text) :
    pieces p (c :: rest) = pieces p rest := by
  rw [pieces, runs_cons_of_neg _ fails, map_fst_runs]

theorem pieces_cons {c : Char} (holds : p c = true) (rest : Text) :
    pieces p (c :: rest) = (c :: rest.takeWhile p) :: pieces p (rest.dropWhile p) := by
  rw [pieces, runs_cons_of_pos _ holds, List.map_cons, map_fst_runs]

theorem of_mem_pieces {text piece : Text} (member : piece ∈ pieces p text) :
    piece ≠ [] ∧ ∀ c ∈ piece, p c = true := by
  induction text using runs_induction (p := p) with
  | nil => cases member
  | skip c rest fails ih => exact ih (pieces_cons_of_neg fails rest ▸ member)
  | run c rest holds ih =>
      rw [pieces_cons holds] at member
      rcases List.mem_cons.mp member with rfl | later
      · refine ⟨List.cons_ne_nil _ _, List.forall_mem_cons.mpr ⟨holds, fun d inside => ?_⟩⟩
        exact List.mem_takeWhile_imp inside
      · exact ih later

theorem flatten_pieces (text : Text) : (pieces p text).flatten = text.filter p := by
  induction text using runs_induction (p := p) with
  | nil => rfl
  | skip c rest fails ih =>
      rw [pieces_cons_of_neg fails, ih, List.filter_cons_of_neg (by simp [fails])]
  | run c rest holds ih =>
      have taken : (rest.takeWhile p).filter p = rest.takeWhile p :=
        List.filter_eq_self.mpr fun d member => List.mem_takeWhile_imp member
      rw [pieces_cons holds, List.flatten_cons, ih, List.filter_cons_of_pos holds, List.cons_append]
      conv => rhs; rw [← List.takeWhile_append_dropWhile (p := p) (l := rest)]
      rw [List.filter_append, taken]

theorem mem_of_mem_pieces {text piece : Text} (member : piece ∈ pieces p text) {c : Char}
    (inside : c ∈ piece) : c ∈ text := by
  obtain ⟨run, among, rfl⟩ := List.mem_map.mp member
  obtain ⟨before, after, rfl, -⟩ := exists_split_of_mem_runs among
  exact List.mem_append_left after (List.mem_append_right before inside)

theorem exists_piece_of_mem {text : Text} {c : Char} (member : c ∈ text) (holds : p c = true) :
    ∃ piece ∈ pieces p text, c ∈ piece := by
  induction text using runs_induction (p := p) with
  | nil => cases member
  | skip d rest fails ih =>
      rcases List.mem_cons.mp member with rfl | later
      · rw [holds] at fails
        cases fails
      · rw [pieces_cons_of_neg fails]
        exact ih later
  | run d rest first ih =>
      rw [pieces_cons first]
      rw [← List.takeWhile_append_dropWhile (p := p) (l := rest), ← List.cons_append,
        List.mem_append] at member
      rcases member with inside | later
      · exact ⟨_, List.mem_cons_self, inside⟩
      · obtain ⟨piece, among, within⟩ := ih later
        exact ⟨piece, List.mem_cons_of_mem _ among, within⟩

theorem pieces_of_forall {text : Text} (some : text ≠ []) (all : ∀ c ∈ text, p c = true) :
    pieces p text = [text] := by
  obtain ⟨c, rest, rfl⟩ := List.exists_cons_of_ne_nil some
  obtain ⟨holds, later⟩ := List.forall_mem_cons.mp all
  rw [pieces_cons holds, List.takeWhile_eq_self_iff.mpr later, List.dropWhile_eq_nil_iff.mpr later,
    pieces_nil]

theorem pieces_append_of_forall_not {first : Text} (none : ∀ c ∈ first, p c = false)
    (second : Text) : pieces p (first ++ second) = pieces p second := by
  induction first with
  | nil => rfl
  | cons c rest ih =>
      obtain ⟨fails, later⟩ := List.forall_mem_cons.mp none
      rw [List.cons_append, pieces_cons_of_neg fails, ih later]

theorem pieces_congr {text : Text} (same : ∀ c ∈ text, p c = q c) :
    pieces p text = pieces q text := by
  suffices equal : ∀ column, runs p column text = runs q column text from
    congrArg (List.map Prod.fst) (equal 0)
  induction text with
  | nil => exact fun _ => rfl
  | cons c rest ih =>
      obtain ⟨here, later⟩ := List.forall_mem_cons.mp same
      intro column
      simp only [runs, here, ih later]

theorem pieces_append_cons (first : Text) {c : Char} (fails : p c = false) (second : Text) :
    pieces p (first ++ c :: second) = pieces p first ++ pieces p second := by
  induction first using runs_induction (p := p) with
  | nil => exact pieces_cons_of_neg fails second
  | skip d rest outside ih =>
      rw [List.cons_append, pieces_cons_of_neg outside, pieces_cons_of_neg outside, ih]
  | run d rest holds ih =>
      have taken : (rest ++ c :: second).takeWhile p = rest.takeWhile p := by
        rw [List.takeWhile_append]
        split
        · next whole =>
            rw [(List.takeWhile_prefix p).eq_of_length whole,
              List.takeWhile_cons_of_neg (by simp [fails]), List.append_nil]
        · rfl
      have left : (rest ++ c :: second).dropWhile p = rest.dropWhile p ++ c :: second := by
        rw [List.dropWhile_append]
        split
        · next none =>
            rw [List.isEmpty_iff.mp none, List.dropWhile_cons_of_neg (by simp [fails]),
              List.nil_append]
        · rfl
      rw [List.cons_append, pieces_cons holds, pieces_cons holds, taken, left, ih,
        List.cons_append]

theorem pieces_append_of_forall_not_right (first : Text) {second : Text}
    (none : ∀ c ∈ second, p c = false) : pieces p (first ++ second) = pieces p first := by
  cases second with
  | nil => rw [List.append_nil]
  | cons c rest =>
      obtain ⟨fails, later⟩ := List.forall_mem_cons.mp none
      have empty := pieces_append_of_forall_not later []
      rw [List.append_nil] at empty
      rw [pieces_append_cons first fails, empty, pieces_nil, List.append_nil]

/-- A piece stands in a text, consists of characters of a class and has none of them beside it. -/
structure IsRun (p : Char → Bool) (piece text : Text) : Prop where
  nonempty : piece ≠ []
  inside : ∀ c ∈ piece, p c = true
  bounded : ∃ before after, text = before ++ piece ++ after ∧
    (∀ c ∈ before.getLast?, p c = false) ∧ ∀ c ∈ after.head?, p c = false

theorem isRun_of_mem_pieces {text piece : Text} (member : piece ∈ pieces p text) :
    IsRun p piece text := by
  obtain ⟨nonempty, inside⟩ := of_mem_pieces member
  refine ⟨nonempty, inside, ?_⟩
  induction text using runs_induction (p := p) with
  | nil => cases member
  | skip c rest fails ih =>
      rw [pieces_cons_of_neg fails] at member
      obtain ⟨before, after, rfl, left, right⟩ := ih member
      refine ⟨c :: before, after, rfl, fun d last => ?_, right⟩
      cases before with
      | nil =>
          obtain rfl : c = d := by simpa using last
          exact fails
      | cons e before => exact left d (List.getLast?_cons_cons ▸ last)
  | run c rest holds ih =>
      have outside : ∀ d ∈ (rest.dropWhile p).head?, p d = false := by
        intro d first
        have kept := List.head?_dropWhile_not p rest
        rw [Option.mem_def.mp first] at kept
        simpa using kept
      rw [pieces_cons holds] at member
      rcases List.mem_cons.mp member with rfl | later
      · refine ⟨[], rest.dropWhile p, ?_, by simp, outside⟩
        simp [List.takeWhile_append_dropWhile]
      · obtain ⟨before, after, split, left, right⟩ := ih later
        have some : before ≠ [] := by
          rintro rfl
          obtain ⟨d, more, rfl⟩ := List.exists_cons_of_ne_nil nonempty
          have fails := outside d (by rw [split]; rfl)
          rw [inside d List.mem_cons_self] at fails
          cases fails
        refine ⟨c :: rest.takeWhile p ++ before, after, ?_, fun d last => ?_, right⟩
        · rw [List.append_assoc, List.append_assoc, ← List.append_assoc before, ← split,
            List.cons_append, List.takeWhile_append_dropWhile]
        · rw [List.getLast?_append, Option.or_of_isSome (by simpa using some)] at last
          exact left d last

theorem mem_pieces_iff {text piece : Text} : piece ∈ pieces p text ↔ IsRun p piece text := by
  refine ⟨isRun_of_mem_pieces, fun ⟨nonempty, inside, before, after, whole, left, right⟩ => ?_⟩
  have first : piece ∈ pieces p (piece ++ after) := by
    cases after with
    | nil => simp [pieces_of_forall nonempty inside]
    | cons d after =>
        rw [pieces_append_cons _ (right d rfl), pieces_of_forall nonempty inside]
        exact List.mem_append_left _ (List.mem_singleton_self piece)
  rw [whole, List.append_assoc]
  rcases List.eq_nil_or_concat before with rfl | ⟨front, d, rfl⟩
  · exact first
  · have fails : p d = false := left d (by simp)
    rw [List.concat_eq_append, List.append_assoc, List.singleton_append,
      pieces_append_cons _ fails]
    exact List.mem_append_right _ first

theorem pieces_and (text : Text) :
    pieces (fun c => p c && q c) text = (pieces p text).flatMap (pieces q) := by
  induction text using runs_induction (p := p) with
  | nil => rfl
  | skip c rest fails ih =>
      rw [pieces_cons_of_neg (by simp [fails]), pieces_cons_of_neg fails, ih]
  | run c rest holds ih =>
      have split : ∀ run : Text, pieces (fun c => p c && q c) (run ++ rest.dropWhile p) =
          pieces (fun c => p c && q c) run ++
            pieces (fun c => p c && q c) (rest.dropWhile p) := by
        intro run
        cases left : rest.dropWhile p with
        | nil => simp
        | cons d later =>
            have outside : p d = false := by
              have kept := List.head?_dropWhile_not p rest
              rw [left] at kept
              simpa using kept
            have both : (p d && q d) = false := by simp [outside]
            rw [pieces_append_cons run both, pieces_cons_of_neg both]
      have inside : ∀ d ∈ c :: rest.takeWhile p, (p d && q d) = q d := by
        intro d member
        rcases List.mem_cons.mp member with rfl | later
        · simp [holds]
        · simp [List.mem_takeWhile_imp later]
      have whole : c :: rest = (c :: rest.takeWhile p) ++ rest.dropWhile p := by
        rw [List.cons_append, List.takeWhile_append_dropWhile]
      rw [pieces_cons holds, List.flatMap_cons, ← ih, whole, split, pieces_congr inside]

end Pieces

end Text

end InputDeck
