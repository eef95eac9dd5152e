import InputDeck.Analysis.Cursor
import InputDeck.Proofs.Analysis.Uses
import InputDeck.Proofs.Context.Explicit

/-!
From a word to its definition and back.  The places that refer to a definition are collected from
the outline, block by block; a cursor reads its row and looks upwards for its block.  Where a type
that is given comes first in its block and is a plain word, both find the same block, the same type
and the same parameter of the schema, and so the same definition.
-/

namespace InputDeck

namespace Analysis

open Outline Schema Text

/-- A block whose type, if it is given one, comes first and is one word without quotation marks. -/
def TypedFirst (block : Block) : Prop :=
  ∀ item ∈ block.parameters, item.name = "type".toList →
    block.parameters.head? = some item ∧ ∃ value, item.value = some value ∧
      ∀ c ∈ value.text, isBlank c = false ∧ isQuote c = false

theorem typedFirst_iff {block : Block} :
    (∀ item ∈ block.parameters, item.name = "type".toList → block.parameters.head? = some item ∧
      item.value.any (fun value => value.text.all (fun c => !isBlank c && !isQuote c)) = true) ↔
      TypedFirst block := by
  simp [TypedFirst, Option.any_eq_true]

instance (block : Block) : Decidable (TypedFirst block) :=
  decidable_of_iff _ typedFirst_iff

structure Navigable (doc : Document) : Prop extends doc.Legible where
  typed : ∀ path block, Holds doc.outline path block → TypedFirst block

/-- Two questions are asked of one database, whichever is the first, and whatever is asked in
between. -/
def Sequent {α β : Type} (one : Inquiry α) (first : Catalog) (other : Inquiry β)
    (second : Catalog) : Prop :=
  (one.run first).2 ≤ second ∨ (other.run second).2 ≤ first

theorem Sequent.exists_later {α β : Type} {one : Inquiry α} {other : Inquiry β}
    {first second : Catalog} (sequent : Sequent one first other second)
    (settles : Settles one) (settlesOther : Settles other) :
    ∃ later, (one.run first).2 ≤ later ∧ (other.run second).2 ≤ later := by
  rcases sequent with before | after
  · exact ⟨_, le_trans before (settlesOther.grows second), le_refl _⟩
  · exact ⟨_, le_refl _, le_trans after (settles.grows first)⟩

/-! The block of a row. -/

def Gives (doc : Document) (row : Nat) (path : List Text) (name : Text) (value : Placed) : Prop :=
  ∃ line top, doc.rows[row]? = some line ∧
    (Line.read line).content = .parameter name (some value) ∧
    (State.run {} (doc.rows.take (row + 1))).current = some top ∧ top.names = path

theorem findParameter?_of_head {parameters : List Parameter} {name : Text} {item : Parameter}
    (first : parameters.head? = some item) (named : item.name = name) :
    findParameter? parameters name = some item := by
  cases parameters with
  | nil => cases first
  | cons other rest =>
      obtain rfl := Option.some.inj first
      simp [findParameter?, named]

theorem givenType?_of_typedFirst {block : Block} (typed : TypedFirst block)
    (tight : ∀ item ∈ block.parameters, ∀ value, item.value = some value → Tight value.text)
    {before after : List Parameter} {item : Parameter}
    (split : block.parameters = before ++ item :: after) :
    givenType? (before ++ [item]) = block.type? := by
  cases found : block.parameter? "type".toList with
  | none =>
      have among : findParameter? (before ++ [item]) "type".toList = none := by
        rw [Block.parameter?, findParameter?, List.find?_eq_none, split] at found
        rw [findParameter?, List.find?_eq_none]
        exact fun other member => found other (by simp at member ⊢; tauto)
      rw [givenType?, among, Block.type?, Block.valueOf?, found]
      rfl
  | some type =>
      have member := List.mem_of_find?_eq_some found
      have named : type.name = "type".toList := by simpa using List.find?_some found
      obtain ⟨first, value, given, plain⟩ := typed type member named
      have head : (before ++ [item]).head? = some type := by
        rw [← first, split]
        cases before <;> rfl
      have bare : Bare value.text :=
        ⟨fun c inside => (plain c inside).1, fun c here => (plain c (List.mem_of_head? here)).2,
          fun c here => (plain c (List.mem_of_getLast? here)).2⟩
      have word := (head?_words_eq_unquote_iff (tight type member value given)).mpr bare
      rw [givenType?, findParameter?_of_head head named, Block.type?, Block.valueOf?, found]
      simpa [Parameter.valueText?, given] using word

section Rows

variable {text path : Text} {names : List Text} {block : Block} {item : Parameter}

theorem exists_row_of_mem (navigable : Navigable (Document.ofText text path))
    (holds : Holds (Document.ofText text path).outline names block)
    (member : item ∈ block.parameters) :
    ∃ (row : Nat) (line : Text), (Document.ofText text path).rows[row]? = some line ∧
      item.start.row = row ∧ (Line.read line).content = .parameter item.name item.value ∧
      (Document.ofText text path).context ⟨row, line.length⟩ = .ok ⟨names, block.type?⟩ := by
  obtain ⟨before, after, split⟩ := List.append_of_mem member
  obtain ⟨row, line, here, start, reads, portion⟩ :=
    Document.traced_of_holds navigable.harmless holds before item after split
  refine ⟨row, line, here, start, reads, ?_⟩
  rw [Document.context_of_portion? navigable.toLegible here portion]
  have tight : ∀ item ∈ block.parameters, ∀ value, item.value = some value → Tight value.text :=
    fun item member value => Document.tight_of_holds navigable.toLegible holds member
  simp only [givenType?_of_typedFirst (navigable.typed names block holds) tight split]
  rfl

theorem exists_item_of_gives (navigable : Navigable (Document.ofText text path)) {row : Nat}
    {name : Text} {value : Placed}
    (gives : Gives (Document.ofText text path) row names name value) :
    ∃ block item, Holds (Document.ofText text path).outline names block ∧
      item ∈ block.parameters ∧ item.name = name ∧ item.value = some value ∧
      item.start.row = row := by
  obtain ⟨line, top, here, reads, current, rfl⟩ := gives
  have step := current
  rw [State.run_take_succ here] at step
  obtain ⟨item, given, named, value, start⟩ := State.exists_given_step reads step
  rw [State.row_run_take here] at start
  have portion : (State.run {} ((Document.ofText text path).rows.take (row + 1))).portion? =
      some top.portion := by
    rw [State.portion?, current, Option.map_some]
  obtain ⟨block, holds, -, later, parameters, -⟩ := Document.exists_holds_of_portion?
    navigable.harmless (List.getElem?_eq_some_iff.mp here).1 portion
  refine ⟨block, item, holds, ?_, named, value, start⟩
  rw [parameters]
  exact List.mem_append_left _ given

end Rows

/-! The token at the start of a word. -/

section Token

variable {doc : Document} {row column : Nat} {line name word : Text} {value : Placed}
  {context : Context}

theorem cursorMatch_of_parameter (here : doc.rows[row]? = some line)
    (reads : (Line.read line).content = .parameter name (some value))
    (sees : doc.context ⟨row, line.length⟩ = .ok context) (column : Int) :
    cursorMatch doc ⟨row, column⟩ =
      .ok (parameterMatch doc ⟨row, column⟩ (Line.read line) name context) := by
  have same : doc.row row = line := by
    simp [Document.row, here]
  simp only [cursorMatch, same, sees, reads]
  rfl

def wordMatch (doc : Document) (row column : Nat) (context : Context) (name word : Text)
    (param : Option Param) : Inquiry (Option CursorMatch) :=
  let piece : Piece := ⟨row, column, column + word.length⟩
  if name == "type".toList then do
    return some (← typeMatch piece context.path param word)
  else do
    return some (← valueMatch doc piece context.path name param word)

theorem parameterMatch_of_word (reads : (Line.read line).content = .parameter name (some value))
    (member : (word, column) ∈ value.words) :
    parameterMatch doc ⟨row, column⟩ (Line.read line) name context =
      Inquiry.parameter? context.path context.type name >>=
        wordMatch doc row column context name word := by
  obtain ⟨-, behind⟩ := Line.value_of_parameter reads
  have first : value.column ≤ column := column_le_of_mem_runs _ _ _ member
  have outside : ∀ row : Int, (⟨row, (Line.read line).nameColumn,
      (Line.read line).nameColumn + name.length⟩ : Piece).holds column = false := by
    intro row
    simp [Piece.holds, Line.nameColumn, reads, Content.nameOffset]
    omega
  have touched : ((Line.read line).valueWords.map (fun other =>
      (other.1, (⟨row, other.2, other.2 + other.1.length⟩ : Piece)))).find?
        (fun other => other.2.holds column) =
      some (word, ⟨row, column, column + word.length⟩) := by
    have words : (Line.read line).valueWords = value.words := by
      simp [Line.valueWords, reads, Content.value?]
    have touches : ((fun (other : Text × Piece) => other.2.holds column) ∘
        fun (other : Text × Nat) => (other.1, (⟨row, other.2, other.2 + other.1.length⟩ : Piece))) =
        fun other => other.2 ≤ column && column ≤ other.2 + other.1.length := by
      funext other
      simp [Piece.holds]
    have found := find?_runs member
    rw [← touches] at found
    rw [words, List.find?_map]
    exact congrArg _ found
  simp only [parameterMatch, outside]
  refine bind_congr fun param => ?_
  rw [if_neg Bool.false_ne_true]
  split
  · next none => cases none.symm.trans touched
  · next other piece found =>
      obtain ⟨rfl, rfl⟩ := Prod.mk.inj (Option.some.inj (found.symm.trans touched))
      rfl

theorem settles_typeMatch (piece : Piece) (path : List Text) (param : Option Param) (word : Text) :
    Settles (typeMatch piece path param word) := by
  refine (Inquiry.settles_find? path).bind fun base => ?_
  cases base with
  | none => exact Settles.pure _
  | some base => exact (Inquiry.settles_find? _).bind fun _ => Settles.pure _

theorem settles_valueMatch (doc : Document) (piece : Piece) (path : List Text) (name : Text)
    (param : Option Param) (word : Text) :
    Settles (valueMatch doc piece path name param word) := by
  simp only [valueMatch]
  split
  · exact Settles.pure _
  · exact (settles_references doc).bind fun _ => Settles.pure _

theorem settles_wordMatch (param : Option Param) :
    Settles (wordMatch doc row column context name word param) := by
  simp only [wordMatch]
  split
  · exact (settles_typeMatch _ _ _ _).bind fun _ => Settles.pure _
  · exact (settles_valueMatch _ _ _ _ _ _).bind fun _ => Settles.pure _

theorem typeMatch_run (piece : Piece) (path : List Text) (param : Option Param) (word : Text)
    (catalog : Catalog) :
    ((typeMatch piece path param word).run catalog).1.kind = .type ∧
    ((typeMatch piece path param word).run catalog).1.start = ⟨piece.row, piece.start⟩ := by
  have run : ∀ rest : Option Match → Inquiry CursorMatch,
      (Inquiry.find? path >>= rest).run catalog =
        (rest ((Inquiry.find? path).run catalog).1).run ((Inquiry.find? path).run catalog).2 :=
    fun _ => rfl
  simp only [typeMatch, run]
  cases ((Inquiry.find? path).run catalog).1 <;> exact ⟨rfl, rfl⟩

theorem valueMatch_run (doc : Document) (piece : Piece) (path : List Text) (name : Text)
    (param : Option Param) (word : Text) (catalog : Catalog) :
    ((valueMatch doc piece path name param word).run catalog).1.kind = .value ∧
    ((valueMatch doc piece path name param word).run catalog).1.start = ⟨piece.row, piece.start⟩ ∧
    ((valueMatch doc piece path name param word).run catalog).1.definition =
      (resolve? ((references doc).run catalog).1 (namespacesFor name param) word).map
        (·.definition) := by
  simp only [valueMatch]
  split
  · next empty =>
      refine ⟨rfl, rfl, ?_⟩
      rw [List.isEmpty_iff.mp empty]
      rfl
  · exact ⟨rfl, rfl, rfl⟩

theorem wordMatch_run (doc : Document) (row column : Nat) (context : Context) (name word : Text)
    (param : Option Param) (catalog : Catalog) :
    ∃ found, ((wordMatch doc row column context name word param).run catalog).1 = some found ∧
      found.start = ⟨row, column⟩ ∧ (found.kind = .value ↔ name ≠ "type".toList) ∧
      (name ≠ "type".toList → found.definition =
        (resolve? ((references doc).run catalog).1 (namespacesFor name param) word).map
          (·.definition)) := by
  simp only [wordMatch]
  split
  · next typed =>
      obtain ⟨kind, start⟩ := typeMatch_run ⟨row, column, column + word.length⟩ context.path param
        word catalog
      refine ⟨_, rfl, start, iff_of_false (fun valued => ?_) (fun other => other (eq_of_beq typed)),
        fun other => absurd (eq_of_beq typed) other⟩
      exact nomatch kind.symm.trans valued
  · next other =>
      have named : name ≠ "type".toList := by simpa using other
      obtain ⟨kind, start, definition⟩ := valueMatch_run doc
        ⟨row, column, column + word.length⟩ context.path name param word catalog
      refine ⟨_, rfl, start, ?_, ?_⟩
      · exact iff_of_true kind named
      · exact fun _ => definition

end Token

/-! Places and definitions. -/

section Places

variable {text path : Text} {names : List Text} {block : Block} {item : Parameter}
  {value : Placed} {word : Text} {column : Nat} {later : Catalog}

def pointed (doc : Document) (names : List Text) (block : Block) (item : Parameter)
    (row column : Nat) (word : Text) : Inquiry (Option CursorMatch) :=
  Inquiry.parameter? names block.type? item.name >>=
    wordMatch doc row column ⟨names, block.type?⟩ item.name word

theorem settles_pointed (doc : Document) (names : List Text) (block : Block) (item : Parameter)
    (row column : Nat) (word : Text) :
    Settles (pointed doc names block item row column word) :=
  ((Inquiry.settles_parameters _ _).bind fun _ => Settles.pure _).bind settles_wordMatch

theorem cursorMatch_of_mem (navigable : Navigable (Document.ofText text path))
    (holds : Holds (Document.ofText text path).outline names block)
    (member : item ∈ block.parameters) (given : item.value = some value)
    (placed : (word, column) ∈ value.words) :
    ∃ row : Nat, item.start.row = row ∧
      cursorMatch (Document.ofText text path) ⟨row, column⟩ =
        .ok (pointed (Document.ofText text path) names block item row column word) := by
  obtain ⟨row, line, here, start, reads, sees⟩ := exists_row_of_mem navigable holds member
  rw [given] at reads
  refine ⟨row, start, ?_⟩
  rw [cursorMatch_of_parameter here reads sees, parameterMatch_of_word reads placed]
  rfl

theorem pointed_at {doc : Document} {row : Nat}
    (still : ((pointed doc names block item row column word).run later).2 ≤ later) :
    ∃ found, ((pointed doc names block item row column word).run later).1 = some found ∧
      found.start = ⟨row, column⟩ ∧ (found.kind = .value ↔ item.name ≠ "type".toList) ∧
      (item.name ≠ "type".toList → found.definition =
        (resolve? ((references doc).run later).1 (namespacesFor item.name
          ((Inquiry.parameter? names block.type? item.name).run later).1) word).map
            (·.definition)) := by
  obtain ⟨-, -, same⟩ := Settles.bind_at settles_wordMatch still
  obtain ⟨found, run, rest⟩ := wordMatch_run doc row column ⟨names, block.type?⟩ item.name word
    ((Inquiry.parameter? names block.type? item.name).run later).1 later
  exact ⟨found, same.trans run, rest⟩

theorem mem_refs_of_mem {doc : Document} (still : ((references doc).run later).2 ≤ later)
    (holds : Holds doc.outline names block) (member : item ∈ block.parameters)
    (given : item.value = some value) (placed : (word, column) ∈ value.words)
    (uses : isDefining names item.name = false) {entry : Reference}
    (listed : entry ∈ ((references doc).run later).1) (named : entry.definition.name = word)
    (scope : entry.definition.scope ∈ namespacesFor item.name
      ((Inquiry.parameter? names block.type? item.name).run later).1) :
    ⟨item.start.row, column⟩ ∈ entry.refs := by
  obtain ⟨same, used⟩ := references_at still
  rw [same] at listed
  obtain ⟨definition, -, rfl⟩ := List.mem_map.mp listed
  refine mem_refsOf.mpr ⟨⟨word, _, ⟨item.start.row, column⟩⟩, ?_, named.symm, scope, rfl⟩
  refine (mem_allUses_at used).mpr ⟨names, block, holds, mem_blockUses.mpr ?_⟩
  exact ⟨item, member, value, given, uses, rfl, List.ne_nil_of_mem scope, column, placed, rfl⟩

theorem namespacesFor_type (param : Option Param) : namespacesFor "type".toList param = [] := by
  have plain : isPlain "type".toList = true := by decide
  simp only [namespacesFor, plain, if_true]

theorem value_of_mem_refs (navigable : Navigable (Document.ofText text path))
    (still : ((references (Document.ofText text path)).run later).2 ≤ later) {entry : Reference}
    (listed : entry ∈ ((references (Document.ofText text path)).run later).1)
    {position : Position} (refers : position ∈ entry.refs) :
    ∃ inquiry, cursorMatch (Document.ofText text path) position = .ok inquiry ∧ Settles inquiry ∧
      ((inquiry.run later).2 ≤ later → ∃ found, (inquiry.run later).1 = some found ∧
        found.kind = .value ∧ found.start = position ∧
        ∃ other ∈ ((references (Document.ofText text path)).run later).1,
          found.definition = some other.definition ∧ position ∈ other.refs) := by
  obtain ⟨same, used⟩ := references_at still
  have inside := listed
  rw [same] at inside
  obtain ⟨definition, -, rfl⟩ := List.mem_map.mp inside
  obtain ⟨use, member, named, scope, rfl⟩ := mem_refsOf.mp refers
  obtain ⟨names, block, holds, own⟩ := (mem_allUses_at used).mp member
  obtain ⟨item, among, value, given, uses, namespaces, -, column, placed, start⟩ :=
    mem_blockUses.mp own
  obtain ⟨row, here, asks⟩ := cursorMatch_of_mem navigable holds among given placed
  have referring : item.name ≠ "type".toList := by
    intro typed
    rw [namespaces, typed, namespacesFor_type] at scope
    cases scope
  rw [start, here]
  refine ⟨_, asks, settles_pointed _ _ _ _ _ _ _, fun settled => ?_⟩
  obtain ⟨found, answer, place, kind, defined⟩ := pointed_at settled
  rw [namespaces] at scope
  obtain ⟨other, resolved⟩ := exists_resolve? listed scope
  rw [← named] at resolved
  obtain ⟨known, otherNamed, otherScope⟩ := resolve?_spec still resolved
  refine ⟨found, answer, kind.mpr referring, place, other, known, ?_, ?_⟩
  · rw [defined referring, resolved]
    rfl
  · rw [← here]
    exact mem_refs_of_mem still holds among given placed uses known otherNamed otherScope

theorem mem_refs_of_value (navigable : Navigable (Document.ofText text path)) {row : Nat}
    {name : Text} (gives : Gives (Document.ofText text path) row names name value)
    (placed : (word, column) ∈ value.words) (uses : isDefining names name = false) :
    ∃ inquiry, cursorMatch (Document.ofText text path) ⟨row, column⟩ = .ok inquiry ∧
      Settles inquiry ∧ ∀ later, (inquiry.run later).2 ≤ later →
        ((references (Document.ofText text path)).run later).2 ≤ later →
        ∀ found definition, (inquiry.run later).1 = some found → found.kind = .value →
          found.definition = some definition →
          ∃ entry ∈ ((references (Document.ofText text path)).run later).1,
            entry.definition = definition ∧ ⟨row, column⟩ ∈ entry.refs := by
  obtain ⟨block, item, holds, member, rfl, given, start⟩ := exists_item_of_gives navigable gives
  obtain ⟨same, here, asks⟩ := cursorMatch_of_mem navigable holds member given placed
  obtain rfl : row = same := Int.ofNat.inj (start.symm.trans here)
  refine ⟨_, asks, settles_pointed _ _ _ _ _ _ _, ?_⟩
  intro later settled still found definition answer valued defined
  obtain ⟨token, run, -, kind, resolved⟩ := pointed_at settled
  obtain rfl : token = found := Option.some.inj (run.symm.trans answer)
  rw [resolved (kind.mp valued), Option.map_eq_some_iff] at defined
  obtain ⟨entry, first, rfl⟩ := defined
  obtain ⟨known, named, scope⟩ := resolve?_spec still first
  refine ⟨entry, known, rfl, ?_⟩
  rw [← start]
  exact mem_refs_of_mem still holds member given placed uses known named scope

end Places

/-- Finding the definition of a word and finding the places that refer to a definition agree.
Every place that is listed with a definition is a word that resolves to a definition with which it
is listed; and every word of a parameter that does not define names is listed with the definition
that it resolves to. -/
theorem references_agree_with_cursor (text path : Text)
    (navigable : Navigable (Document.ofText text path)) (first : Catalog) :
    (∀ entry ∈ ((references (Document.ofText text path)).run first).1,
      ∀ position ∈ entry.refs, ∃ inquiry,
        cursorMatch (Document.ofText text path) position = .ok inquiry ∧
        ∀ second, Sequent (references (Document.ofText text path)) first inquiry second →
          ∃ found, (inquiry.run second).1 = some found ∧ found.kind = .value ∧
            found.start = position ∧
            ∃ other ∈ ((references (Document.ofText text path)).run first).1,
              found.definition = some other.definition ∧ position ∈ other.refs) ∧
    (∀ (row : Nat) names name value, Gives (Document.ofText text path) row names name value →
      isDefining names name = false → ∀ word (column : Nat), (word, column) ∈ value.words →
      ∃ inquiry, cursorMatch (Document.ofText text path) ⟨row, column⟩ = .ok inquiry ∧
        ∀ second, Sequent (references (Document.ofText text path)) first inquiry second →
          ∀ found definition, (inquiry.run second).1 = some found → found.kind = .value →
            found.definition = some definition →
            ∃ entry ∈ ((references (Document.ofText text path)).run first).1,
              entry.definition = definition ∧ ⟨row, column⟩ ∈ entry.refs) := by
  -- Both questions are asked again of a later catalog, where neither adds anything any more.
  have refers := settles_references (Document.ofText text path)
  have again := refers.answer first
  have still := refers.nothing first
  constructor
  · intro entry listed position refersTo
    rw [← again _ (le_refl _)] at listed
    obtain ⟨inquiry, asks, settles, -⟩ :=
      value_of_mem_refs navigable (still _ (le_refl _)) listed refersTo
    refine ⟨inquiry, asks, fun second sequent => ?_⟩
    obtain ⟨later, before, after⟩ := sequent.exists_later refers settles
    rw [again _ (le_refl _), ← again later before] at listed
    obtain ⟨same, asksSame, -, resolves⟩ :=
      value_of_mem_refs navigable (still later before) listed refersTo
    obtain rfl : inquiry = same := Except.ok.inj (asks.symm.trans asksSame)
    have found := resolves (settles.nothing second later after)
    rwa [settles.answer second later after, again later before] at found
  · intro row names name value gives uses word column placed
    obtain ⟨inquiry, asks, settles, listed⟩ := mem_refs_of_value navigable gives placed uses
    refine ⟨inquiry, asks, fun second sequent => ?_⟩
    obtain ⟨later, before, after⟩ := sequent.exists_later refers settles
    have found := listed later (settles.nothing second later after) (still later before)
    rwa [settles.answer second later after, again later before] at found

def coupled : Text :=
  joinWith ['\n'] (["[Variables]", "  [./u]", "  [../]", "[]", "[Kernels]", "  [./k]",
    "    type = Diffusion", "    variable = u", "  [../]", "[]"].map String.toList)

def diffusive : Catalog where
  loaded := some {
    nodes := [{
      name := "/Kernels/Diffusion".toList,
      parameters := [{ name := "variable".toList, type := "NonlinearVariableName".toList }] }] }

theorem coupled_agrees :
    ∃ inquiry found, cursorMatch (Document.anonymous coupled) ⟨7, 15⟩ = .ok inquiry ∧
      (inquiry.run ((references (Document.anonymous coupled)).run diffusive).2).1 = some found ∧
      found.kind = .value ∧
      ∃ entry ∈ ((references (Document.anonymous coupled)).run diffusive).1,
        found.definition = some entry.definition ∧ ⟨7, 15⟩ ∈ entry.refs := by
  have tops : ∀ top ∈ (Document.anonymous coupled).outline,
      TypedFirst top.toBlock ∧ ∀ child ∈ top.children, TypedFirst child := by decide +kernel
  have navigable : Navigable (Document.anonymous coupled) := by
    refine ⟨⟨by decide +kernel, by decide +kernel⟩, fun path block holds => ?_⟩
    cases holds with
    | top member => exact (tops _ member).1
    | sub member inside => exact (tops _ member).2 _ inside
  obtain ⟨entry, listed, refers⟩ :
      ∃ entry ∈ ((references (Document.anonymous coupled)).run diffusive).1,
        (⟨7, 15⟩ : Position) ∈ entry.refs := by decide +kernel
  have reads : (State.run {} ((Document.anonymous coupled).rows.take 8)).current.map OpenTop.names =
      some ["Kernels".toList, "k".toList] := by decide +kernel
  obtain ⟨top, current, names⟩ := Option.map_eq_some_iff.mp reads
  have gives : Gives (Document.anonymous coupled) 7 ["Kernels".toList, "k".toList]
      "variable".toList ⟨['u'], 15⟩ :=
    ⟨"    variable = u".toList, top, by decide +kernel, by decide +kernel, current, names⟩
  obtain ⟨there, back⟩ := references_agree_with_cursor coupled Document.unnamed navigable diffusive
  obtain ⟨inquiry, asks, resolves⟩ := there entry listed ⟨7, 15⟩ refers
  obtain ⟨same, asksSame, lists⟩ :=
    back 7 _ _ _ gives (by decide +kernel) ['u'] 15 (by decide +kernel)
  obtain rfl : inquiry = same := Except.ok.inj (asks.symm.trans asksSame)
  obtain ⟨found, answer, kind, -, other, -, defined, -⟩ := resolves _ (.inl (le_refl _))
  obtain ⟨target, known, meant, place⟩ :=
    lists _ (.inl (le_refl _)) found other.definition answer kind defined
  exact ⟨inquiry, found, asks, answer, kind, target, known, meant ▸ defined, place⟩

end Analysis

end InputDeck
