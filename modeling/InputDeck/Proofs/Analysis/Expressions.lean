import InputDeck.Analysis.Reference
import InputDeck.Proofs.Line.Marks
import InputDeck.Proofs.Text.Search

/-!
The properties that the entries of an expression use.  An entry gives the name of a property alone,
in a derivative or in a call, and may put an alias in front.
-/

namespace InputDeck

namespace Analysis

open Text

def IsLetter (c : Char) : Prop :=
  ('a' ≤ c ∧ c ≤ 'z') ∨ ('A' ≤ c ∧ c ≤ 'Z') ∨ c = '_'

def IsDigit (c : Char) : Prop :=
  '0' ≤ c ∧ c ≤ '9'

instance (c : Char) : Decidable (IsLetter c) :=
  inferInstanceAs (Decidable (_ ∨ _))

instance (c : Char) : Decidable (IsDigit c) :=
  inferInstanceAs (Decidable (_ ∧ _))

def Identifier (name : Text) : Prop :=
  ∃ first rest, name = first :: rest ∧ IsLetter first ∧ ∀ c ∈ rest, IsLetter c ∨ IsDigit c

inductive Mentions (name : Text) : Text → Prop
  | plain : Mentions name name
  | derivative {rest : Text} (ends : rest.head? ∈ [none, some ',', some ']']) :
      Mentions name ("D[".toList ++ name ++ rest)
  | call (arguments : Text) : Mentions name (name ++ '(' :: arguments)

/-- An entry uses a property, perhaps behind an alias. -/
inductive UsedIn (name : Text) : Text → Prop
  | direct {entry : Text} (unaliased : ¬ ":=".toList <:+: entry) (mentions : Mentions name entry) :
      UsedIn name entry
  | aliased {label entry : Text} (first : ¬ ":=".toList <:+: label)
      (mentions : Mentions name entry) : UsedIn name (label ++ ":=".toList ++ entry)

theorem unbordered_assignment : Unbordered ":=".toList := by
  intro column behind within
  have one : column = 1 := by
    change column < 2 at within
    omega
  subst one
  decide

theorem afterAssignment_of_absent {entry : Text} (absent : ¬ ":=".toList <:+: entry) :
    afterAssignment entry = entry := by
  rw [afterAssignment, find?_eq_none_iff.mpr absent]

theorem afterAssignment_append {label : Text} (absent : ¬ ":=".toList <:+: label) (entry : Text) :
    afterAssignment (label ++ ":=".toList ++ entry) = entry := by
  rw [afterAssignment, unbordered_assignment.find?_append absent]
  exact List.drop_left' (by simp)

theorem afterAssignment_cases (entry : Text) :
    (¬ ":=".toList <:+: entry ∧ afterAssignment entry = entry) ∨
      ∃ label, ¬ ":=".toList <:+: label ∧
        entry = label ++ ":=".toList ++ afterAssignment entry := by
  cases found : find? ":=".toList entry with
  | none =>
      have absent := find?_eq_none_iff.mp found
      exact .inl ⟨absent, afterAssignment_of_absent absent⟩
  | some offset =>
      obtain ⟨⟨label, after, rfl, rfl⟩, first⟩ := find?_eq_some_iff.mp found
      have absent : ¬ ":=".toList <:+: label := by
        rintro ⟨before, behind, rfl⟩
        have early := first before.length ⟨before, behind ++ ":=".toList ++ after, by simp, rfl⟩
        have width : ":=".toList.length = 2 := rfl
        simp only [List.length_append] at early
        omega
      exact .inr ⟨label, absent, by rw [afterAssignment_append absent]⟩

section Identifier

variable {name : Text}

theorem isLetter_iff {c : Char} : (c.isAlpha || c == '_') = true ↔ IsLetter c := by
  delta Char.isAlpha Char.isUpper Char.isLower
  simp only [IsLetter, Char.le_def, Bool.or_eq_true, Bool.and_eq_true, decide_eq_true_eq,
    beq_iff_eq, or_comm, or_assoc]

theorem isLetter_or_isDigit_iff {c : Char} :
    (c.isAlphanum || c == '_') = true ↔ IsLetter c ∨ IsDigit c := by
  rw [← isLetter_iff, Char.isAlphanum]
  simp only [Char.isDigit, IsDigit, Char.le_def, Bool.or_eq_true, Bool.and_eq_true,
    decide_eq_true_eq, beq_iff_eq]
  tauto

theorem isIdentifier_iff : isIdentifier name = true ↔ Identifier name := by
  cases name with
  | nil => simp [isIdentifier, Identifier]
  | cons first rest =>
      rw [isIdentifier, Bool.and_eq_true, isLetter_iff, List.all_eq_true]
      simp only [isLetter_or_isDigit_iff]
      constructor
      · exact fun ⟨starts, goesOn⟩ => ⟨first, rest, rfl, starts, goesOn⟩
      · rintro ⟨_, _, same, starts, goesOn⟩
        obtain ⟨rfl, rfl⟩ := List.cons.inj same
        exact ⟨starts, goesOn⟩

theorem Identifier.letters (identifier : Identifier name) :
    ∀ c ∈ name, IsLetter c ∨ IsDigit c := by
  obtain ⟨first, rest, rfl, starts, goesOn⟩ := identifier
  exact List.forall_mem_cons.mpr ⟨.inl starts, goesOn⟩

theorem Identifier.not_mem (identifier : Identifier name) {c : Char}
    (other : ¬ (IsLetter c ∨ IsDigit c)) : c ∉ name :=
  fun member => other (identifier.letters c member)

theorem Identifier.ne_nil (identifier : Identifier name) : name ≠ [] := by
  obtain ⟨first, rest, rfl, -⟩ := identifier
  exact List.cons_ne_nil first rest

theorem isBlank_of_isLetter_or_isDigit {c : Char} (letter : IsLetter c ∨ IsDigit c) :
    isBlank c = false := by
  have bounds : 48 ≤ c.toNat ∧ c.toNat ≤ 122 := by
    simp only [IsLetter, IsDigit, Char.le_def, UInt32.le_iff_toNat_le, Char.reduceVal,
      UInt32.reduceToNat, Char.toNat_val] at letter
    rcases letter with (lower | upper | rfl) | digit
    · omega
    · omega
    · decide
    · omega
  simp only [isBlank, Bool.or_eq_false_iff, Bool.and_eq_false_iff, decide_eq_false_iff_not,
    beq_eq_false_iff_ne]
  omega

end Identifier

section Mentions

variable {name entry : Text}

theorem derivative?_eq_none (other : ∀ rest, entry ≠ "D[".toList ++ rest) :
    derivative? entry = none := by
  cases start : dropStart? "D[".toList entry with
  | none => rw [derivative?, start]; rfl
  | some rest => exact absurd (dropStart?_eq_some_iff.mp start) (other rest)

theorem derivative?_start (inside : Text) :
    derivative? ("D[".toList ++ inside) =
      let name := (trimStart inside).takeWhile (fun c => !(c == ',' || c == ']' || isBlank c))
      if name.isEmpty then none else some name := by
  rw [derivative?, dropStart?_eq_some_iff.mpr rfl]
  rfl

theorem derivative?_append (identifier : Identifier name) {rest : Text}
    (ends : rest.head? ∈ [none, some ',', some ']']) :
    derivative? ("D[".toList ++ name ++ rest) = some name := by
  have solid : ∀ c ∈ name, isBlank c = false :=
    fun c member => isBlank_of_isLetter_or_isDigit (identifier.letters c member)
  have untrimmed : trimStart (name ++ rest) = name ++ rest := by
    obtain ⟨first, others, rfl, -⟩ := identifier
    exact trimStart_cons_of_solid (solid first List.mem_cons_self) (others ++ rest)
  have taken : (name ++ rest).takeWhile
      (fun c => !(c == ',' || c == ']' || isBlank c)) = name := by
    refine (takeWhile_dropWhile_append (fun c member => ?_) fun c first => ?_).1
    · have comma : c ≠ ',' := fun same => identifier.not_mem (by decide) (same ▸ member)
      have bracket : c ≠ ']' := fun same => identifier.not_mem (by decide) (same ▸ member)
      simp [comma, bracket, solid c member]
    · have closes : c = ',' ∨ c = ']' := by simpa [Option.mem_def.mp first] using ends
      rcases closes with rfl | rfl <;> simp
  rw [List.append_assoc, derivative?_start, untrimmed, taken]
  exact if_neg (by simpa using identifier.ne_nil)

theorem exists_of_derivative? (solid : ∀ c ∈ entry, isBlank c = false)
    (found : derivative? entry = some name) :
    ∃ rest : Text, entry = "D[".toList ++ name ++ rest ∧
      rest.head? ∈ [none, some ',', some ']'] := by
  cases start : dropStart? "D[".toList entry with
  | none =>
      rw [derivative?, start] at found
      cases found
  | some inside =>
      obtain rfl := dropStart?_eq_some_iff.mp start
      have within : ∀ c ∈ inside, isBlank c = false :=
        fun c member => solid c (List.mem_append_right _ member)
      have untrimmed : trimStart inside = inside := by
        cases inside with
        | nil => rfl
        | cons c rest => exact trimStart_cons_of_solid (within c List.mem_cons_self) rest
      rw [derivative?_start, untrimmed] at found
      dsimp only at found
      split at found
      · cases found
      · cases found
        refine ⟨inside.dropWhile (fun c => !(c == ',' || c == ']' || isBlank c)), ?_, ?_⟩
        · rw [List.append_assoc, List.takeWhile_append_dropWhile]
        · cases left : inside.dropWhile (fun c => !(c == ',' || c == ']' || isBlank c)) with
          | nil => simp
          | cons c rest =>
              have member : c ∈ inside :=
                (List.dropWhile_sublist _).subset (left ▸ List.mem_cons_self)
              have kept := List.head?_dropWhile_not
                (fun c => !(c == ',' || c == ']' || isBlank c)) inside
              rw [left] at kept
              simpa [within c member, or_iff_not_imp_left] using kept

theorem Identifier.forall_called (identifier : Identifier name) :
    ∀ c ∈ name, (!(c == '(' || isBlank c)) = true := by
  intro c member
  have bracket : c ≠ '(' := fun same => identifier.not_mem (by decide) (same ▸ member)
  simp [bracket, isBlank_of_isLetter_or_isDigit (identifier.letters c member)]

theorem call?_of_identifier (identifier : Identifier name) : call? name = none := by
  rw [call?, List.takeWhile_eq_self_iff.mpr identifier.forall_called]
  simp

theorem call?_append (identifier : Identifier name) (arguments : Text) :
    call? (name ++ '(' :: arguments) = some name := by
  have stops : ∀ c ∈ ('(' :: arguments).head?, (!(c == '(' || isBlank c)) = false := by simp
  rw [call?, (takeWhile_dropWhile_append identifier.forall_called stops).1]
  simp [identifier.ne_nil]

theorem exists_of_call? (found : call? entry = some name) :
    ∃ arguments, entry = name ++ '(' :: arguments := by
  unfold call? at found
  dsimp only at found
  split at found
  · next arguments rest =>
      split at found
      · cases found
      · cases found
        refine ⟨arguments, ?_⟩
        rw [← rest]
        exact (List.prefix_iff_eq_append.mp (List.takeWhile_prefix _)).symm
  · cases found

theorem mentions_getD (solid : ∀ c ∈ entry, isBlank c = false) :
    Mentions ((derivative? entry).getD ((call? entry).getD entry)) entry := by
  cases derived : derivative? entry with
  | some name =>
      obtain ⟨rest, whole, ends⟩ := exists_of_derivative? solid derived
      rw [whole]
      exact .derivative ends
  | none =>
      cases called : call? entry with
      | some name =>
          obtain ⟨arguments, rfl⟩ := exists_of_call? called
          exact .call arguments
      | none => exact .plain

theorem Mentions.getD_eq (mentions : Mentions name entry) (identifier : Identifier name) :
    (derivative? entry).getD ((call? entry).getD entry) = name := by
  cases mentions with
  | plain =>
      have other : ∀ rest, name ≠ "D[".toList ++ rest := by
        rintro rest rfl
        exact identifier.not_mem (c := '[') (by decide) (by simp)
      rw [derivative?_eq_none other, call?_of_identifier identifier]
      rfl
  | derivative ends =>
      rw [derivative?_append identifier ends]
      rfl
  | call arguments =>
      have free : '[' ∉ name := identifier.not_mem (by decide)
      have other : ∀ rest, name ++ '(' :: arguments ≠ "D[".toList ++ rest := by
        intro rest same
        obtain ⟨first, others, rfl, -⟩ := identifier
        cases others with
        | nil => simp at same
        | cons second others =>
            obtain ⟨-, rfl, -⟩ : first = 'D' ∧ second = '[' ∧ others ++ '(' :: arguments = rest := by
              simpa using same
            exact free (by simp)
      rw [derivative?_eq_none other, call?_append identifier]
      rfl

end Mentions

theorem usedProperty?_eq_some_iff {name entry : Text} (solid : ∀ c ∈ entry, isBlank c = false) :
    usedProperty? entry = some name ↔ Identifier name ∧ UsedIn name entry := by
  have reads : usedProperty? entry = some name ↔ Identifier name ∧
      (derivative? (afterAssignment entry)).getD
        ((call? (afterAssignment entry)).getD (afterAssignment entry)) = name := by
    unfold usedProperty?
    dsimp only
    split
    · next identifier =>
        rw [Option.some.injEq, ← isIdentifier_iff]
        constructor
        · rintro rfl
          exact ⟨identifier, rfl⟩
        · exact And.right
    · next other =>
        simp only [reduceCtorEq, false_iff, not_and]
        rintro identifier rfl
        exact other (isIdentifier_iff.mpr identifier)
  rw [reads, and_congr_right_iff]
  intro identifier
  constructor
  · rintro rfl
    rcases afterAssignment_cases entry with ⟨unaliased, whole⟩ | ⟨label, first, whole⟩
    · rw [whole]
      exact .direct unaliased (mentions_getD solid)
    · have later : ∀ c ∈ afterAssignment entry, isBlank c = false := by
        intro c member
        exact solid c (whole ▸ List.mem_append_right _ member)
      have mentions := UsedIn.aliased first (mentions_getD later)
      rwa [← whole] at mentions
  · intro used
    cases used with
    | direct unaliased mentions =>
        rw [afterAssignment_of_absent unaliased]
        exact mentions.getD_eq identifier
    | aliased first mentions =>
        rw [afterAssignment_append first]
        exact mentions.getD_eq identifier

end Analysis

end InputDeck
