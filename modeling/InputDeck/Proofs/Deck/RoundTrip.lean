import InputDeck.Proofs.Deck.Draft
import InputDeck.Proofs.Layout.Standing

/-!
Reading the canonical text of a deck gives the deck back.  Every row of it is read for what it was
written for, and stands where it should.
-/

namespace InputDeck

open Text

theorem Content.Alike.eq_of_closing {first second : Content} (alike : Alike first second)
    (unnamed : second.name? = none) : first = second := by
  cases alike with
  | same => rfl
  | parameter => cases unnamed

namespace Deck

/-! What the rows say. -/

section Rows

variable {width : Int} {level : Nat} {name : Text}

theorem IsName.isBlockName (valid : IsName name) : Line.IsBlockName name := by
  obtain ⟨c, rest, rfl⟩ := List.exists_cons_of_ne_nil valid.nonempty
  have undotted : c ≠ '.' := by simpa using valid.undotted
  have inner : ∀ d ∈ c :: rest, d ≠ '/' ∧ d ≠ ']' := fun d member =>
    ⟨ne_of_mem_of_not_mem member valid.unslashed, ne_of_mem_of_not_mem member valid.unbracketed⟩
  refine ⟨⟨c, rest, rfl, ?_, fun d member => ?_⟩, valid.uncommented⟩
  · simp [Line.startsBlockName, undotted, inner c List.mem_cons_self]
  · simp [Line.continuesBlockName, inner d (List.mem_cons_of_mem c member)]

theorem content_tag (valid : IsName name) (block : Level) :
    (Line.read (Layout.indentation width level ++ block.tag name)).content =
      block.opening name := by
  have content := Line.content_space_tag (@Layout.isBlank_of_mem_indentation width level) block
    valid.isBlockName []
  rwa [List.append_nil] at content

theorem content_closing :
    (Line.read (Layout.indentation width level ++ "[]".toList)).content = .closeTop ∧
      (Line.read (Layout.indentation width level ++ "[../]".toList)).content = .closeSub := by
  have alike : ∀ text : Text, (Line.read (Layout.indentation width level ++ text)).content.Alike
      (Line.read text).content :=
    fun text => Content.alike_of_reading
      (Line.reading_append Layout.isBlank_of_mem_indentation text)
  have top := alike "[]".toList
  have sub := alike "[../]".toList
  rw [show (Line.read "[]".toList).content = .closeTop by decide] at top
  rw [show (Line.read "[../]".toList).content = .closeSub by decide] at sub
  exact ⟨top.eq_of_closing rfl, sub.eq_of_closing rfl⟩

theorem valueBehind_of_isValue {value : Text} (valid : IsValue value) :
    Line.valueBehind (' ' :: value) = some value := by
  have spaced : trim (' ' :: value) = trim value := rfl
  rw [Line.valueBehind, Line.uncommented_cons (by decide),
    Line.uncommented_of_unmarked valid.uncommented, spaced, valid.trimmed]
  simp [valid.nonempty]

theorem reading_entry {entry : Entry} (valid : entry.Valid) :
    (Line.read (Layout.indentation width level ++ entry.row)).content.reading =
      ("param", some entry.name, entry.value) := by
  rw [Line.reading_append Layout.isBlank_of_mem_indentation, Entry.row]
  cases given : entry.value with
  | none => exact Line.reading_assignment valid.name (by simp)
  | some value =>
      have isValue := valid.value value given
      have unbroken : '\n' ∉ ' ' :: value := by simp [isValue.unbroken]
      rw [Option.elim_some, Line.reading_assignment valid.name unbroken,
        valueBehind_of_isValue isValue]

end Rows

/-! Runs over the rows of a deck. -/

theorem Draft.depthAfter_of_accept {supplied : List Entry} {before after : Draft}
    {content : Content} (accepted : before.accept supplied content = some after) :
    Layout.depthAfter before.depth content = after.depth := by
  obtain ⟨tops, top, sub⟩ := before
  cases content with
  | parameter name value =>
      obtain rfl := Option.some.inj accepted
      exact (Draft.depth_extend _ _).symm
  | comment | blank | other =>
      obtain rfl := Option.some.inj accepted
      rfl
  | openTop | closeTop | openSub | closeSub =>
      cases top <;> cases sub <;> cases accepted <;> rfl

/-- Rows that take what has been read from one draft to another, without a fault in their tags or in
their layout. -/
structure Passes (width : Int) (before : Draft) (rows : List Text) (after : Draft) : Prop where
  drafted : ∀ state, plain state = before → plain (state.run rows) = after
  tagged : (rows.filterMap Line.tagOf?).foldlM Tag.next before.depth = some after.depth
  stands : Layout.Stands width before.depth rows after.depth
  unbroken : ∀ row ∈ rows, '\n' ∉ row

namespace Passes

variable {width : Int} {before middle after : Draft} {rows others : List Text} {level : Nat}
  {text : Text}

theorem nil : Passes width before [] before :=
  ⟨fun _ same => same, rfl, .nil, by simp⟩

theorem append (first : Passes width before rows middle)
    (second : Passes width middle others after) :
    Passes width before (rows ++ others) after where
  drafted state same := by
    rw [Outline.State.run_append]
    exact second.drafted _ (first.drafted state same)
  tagged := by
    rw [List.filterMap_append, List.foldlM_append, first.tagged]
    exact second.tagged
  stands := first.stands.append second.stands
  unbroken row member := by
    rcases List.mem_append.mp member with inside | inside
    · exact first.unbroken row inside
    · exact second.unbroken row inside

theorem row {content : Content} {c : Char}
    (content_eq : (Line.read (Layout.indentation width level ++ text)).content = content)
    (accepted : before.accept [] content = some after) (unbroken : '\n' ∉ text)
    (solid : isBlank c = false) (start : text.head? = some c)
    (expected : Layout.expectedLevel before.depth content = some level) :
    Passes width before [Layout.indentation width level ++ text] after where
  drafted := by
    rintro state rfl
    apply plain_step
    rwa [content_eq]
  tagged := by
    have deeper := congrArg (Option.map Draft.depth) accepted
    cases tagged : content.tag? with
    | none =>
        rw [Draft.depth_accept_untagged tagged] at deeper
        simpa [Line.tagOf?, content_eq, tagged] using deeper
    | some tag =>
        rw [Draft.depth_accept tagged] at deeper
        simpa [Line.tagOf?, content_eq, tagged] using deeper
  stands := by
    rw [← Draft.depthAfter_of_accept accepted, ← content_eq]
    exact .indented solid start (content_eq ▸ expected)
  unbroken := by simpa [Layout.indentation] using unbroken

end Passes

section Runs

variable {width : Int} {tops : Deck} {top : Top} {sub : Sub} {name : Text}

theorem Entry.Valid.exists_solid {entry : Entry} (valid : entry.Valid) :
    ∃ c, isBlank c = false ∧ entry.row.head? = some c := by
  obtain ⟨c, rest, named⟩ := List.exists_cons_of_ne_nil valid.name.nonempty
  have first := valid.name.named c (named ▸ List.mem_cons_self)
  exact ⟨c, (Line.isNameChar_iff.mp first).1, by simp [Entry.row, Line.assignment, named]⟩

theorem Entry.Valid.unbroken {entry : Entry} (valid : entry.Valid) : '\n' ∉ entry.row := by
  have name : '\n' ∉ entry.name := fun member => by
    simpa using (Line.isNameChar_iff.mp (valid.name.named _ member)).1
  cases given : entry.value with
  | none => simp [Entry.row, Line.assignment, given, name]
  | some value => simp [Entry.row, Line.assignment, given, name, (valid.value value given).unbroken]

theorem passes_entry {before : Draft} {level : Level} (inside : before.depth = level.depth)
    {entry : Entry} (valid : entry.Valid) :
    Passes width before [Layout.indentation width level.depth ++ entry.row]
      (before.extend [entry]) := by
  obtain ⟨placed, content, value⟩ :=
    Content.exists_parameter_of_reading (@reading_entry width level.depth entry valid)
  obtain ⟨c, solid, start⟩ := valid.exists_solid
  have accepted : before.accept [] (.parameter entry.name placed) =
      some (before.extend [entry]) := by
    rw [Draft.accept, value]
  exact .row content accepted valid.unbroken solid start (congrArg some inside)

theorem passes_entries {before : Draft} {level : Level} (inside : before.depth = level.depth)
    {entries : List Entry} (valid : ∀ entry ∈ entries, entry.Valid) :
    Passes width before (entryRows width level entries) (before.extend entries) := by
  induction entries generalizing before with
  | nil =>
      rw [Draft.extend_nil]
      exact .nil
  | cons entry entries ih =>
      rw [List.forall_mem_cons] at valid
      have rest := ih ((before.depth_extend [entry]).trans inside) valid.2
      rw [Draft.extend_append] at rest
      exact (passes_entry inside valid.1).append rest

theorem isBlank_bracket : isBlank '[' = false := by decide

theorem IsName.unbroken_tag (valid : IsName name) (level : Level) : '\n' ∉ level.tag name := by
  cases level <;> simp [Level.tag, Level.bracket, valid.unbroken]

theorem passes_sub (valid : sub.Valid) :
    Passes width { tops, top := some top } (sub.rows width)
      { tops, top := some { top with subs := top.subs ++ [sub] } } := by
  have opened : Passes width { tops, top := some top }
      [Layout.indentation width 1 ++ Level.sub.tag sub.name]
      { tops, top := some top, sub := some ⟨sub.name, []⟩ } :=
    .row (content_tag valid.name .sub) rfl (valid.name.unbroken_tag .sub) isBlank_bracket rfl rfl
  have entries : Passes width { tops, top := some top, sub := some ⟨sub.name, []⟩ }
      (entryRows width .sub sub.entries) { tops, top := some top, sub := some sub } :=
    passes_entries rfl valid.entries
  have closed : Passes width { tops, top := some top, sub := some sub }
      [Layout.indentation width 1 ++ "[../]".toList]
      { tops, top := some { top with subs := top.subs ++ [sub] } } :=
    .row content_closing.2 rfl (by decide) isBlank_bracket rfl rfl
  exact (opened.append entries).append closed

theorem passes_subs {subs : List Sub} (valid : ∀ sub ∈ subs, sub.Valid) :
    Passes width { tops, top := some top } (subs.flatMap (Sub.rows width))
      { tops, top := some { top with subs := top.subs ++ subs } } := by
  induction subs generalizing top with
  | nil =>
      rw [List.append_nil]
      exact .nil
  | cons sub subs ih =>
      rw [List.forall_mem_cons] at valid
      have rest := @ih { top with subs := top.subs ++ [sub] } valid.2
      rw [List.append_assoc, List.singleton_append] at rest
      exact (passes_sub valid.1).append rest

theorem passes_top (valid : top.Valid) :
    Passes width { tops } (top.rows width) { tops := tops ++ [top] } := by
  have opened : Passes width { tops } [Layout.indentation width 0 ++ Level.top.tag top.name]
      { tops, top := some ⟨⟨top.name, []⟩, []⟩ } :=
    .row (content_tag valid.name .top) rfl (valid.name.unbroken_tag .top) isBlank_bracket rfl rfl
  have entries : Passes width { tops, top := some ⟨⟨top.name, []⟩, []⟩ }
      (entryRows width .top top.entries) { tops, top := some { top with subs := [] } } :=
    passes_entries rfl valid.entries
  have subs : Passes width { tops, top := some { top with subs := [] } }
      (top.subs.flatMap (Sub.rows width)) { tops, top := some top } :=
    passes_subs valid.subs
  have closed : Passes width { tops, top := some top }
      [Layout.indentation width 0 ++ "[]".toList] { tops := tops ++ [top] } :=
    .row content_closing.1 rfl (by decide) isBlank_bracket rfl rfl
  exact ((opened.append entries).append subs).append closed

theorem passes_deck {deck : Deck} (valid : deck.Valid) :
    Passes width { tops } (deck.flatMap (Top.rows width)) { tops := tops ++ deck } := by
  induction deck generalizing tops with
  | nil =>
      rw [List.append_nil]
      exact .nil
  | cons top deck ih =>
      have each := List.forall_mem_cons.mp valid
      have rest := @ih (tops ++ [top]) each.2
      rw [List.append_assoc, List.singleton_append] at rest
      exact (passes_top each.1).append rest

end Runs

/-- The rows of the canonical text are those it was made of, save that the text of the empty deck
has one row. -/
theorem rows_render {width : Int} {deck : Deck} (valid : deck.Valid) (path : Text) :
    deck = [] ∧ (Document.ofText (render width deck) path).rows = [[]] ∨
      (Document.ofText (render width deck) path).rows = deck.flatMap (Top.rows width) := by
  cases deck with
  | nil => exact .inl ⟨rfl, rfl⟩
  | cons top deck =>
      have passes := @passes_deck width [] (top :: deck) valid
      exact .inr (splitOn_joinWith (by simp [Top.rows]) passes.unbroken)

/-- Reading the canonical text of a deck gives the deck, finds every block closed where it should be
and every row where it should stand. -/
theorem read_render {deck : Deck} (valid : deck.Valid) (width : Int) (path : Text) :
    (Document.ofText (render width deck) path).outline.map Top.ofBlock = deck ∧
      ClosureFree (Document.ofText (render width deck) path).structuralDiagnostics ∧
      (Document.ofText (render width deck) path).layoutDiagnostics width = [] := by
  rcases rows_render valid path with ⟨rfl, -⟩ | rows
  · have nothing : ClosureFree [] := by simp [ClosureFree]
    exact ⟨rfl, nothing, rfl⟩
  have passes := @passes_deck width [] deck valid
  have drafted := passes.drafted {} rfl
  have clean : ClosureFree ({} : Outline.State).found := by simp [ClosureFree]
  refine ⟨?_, ?_, ?_⟩
  · have outside := Option.map_eq_none_iff.mp (congrArg Draft.top drafted)
    rw [Document.outline, rows, Outline.read, Outline.State.finish, outside]
    exact congrArg Draft.tops drafted
  · rw [Document.structuralDiagnostics, rows, Outline.read, Outline.State.closureFree_run]
    exact ⟨clean, passes.tagged⟩
  · have stands := passes.stands 0 []
    rw [List.append_nil] at stands
    rw [Layout.layoutDiagnostics_eq, rows]
    exact stands

def kernels : Deck :=
  [⟨⟨"Kernels".toList, [⟨"verbose".toList, some "true".toList⟩]⟩,
    [⟨"diff".toList, [⟨"type".toList, some "'Heat Conduction'".toList⟩, ⟨"block".toList, none⟩]⟩]⟩]

theorem read_render_kernels :
    kernels.Valid ∧
      (Document.anonymous (render 4 kernels)).outline.map Top.ofBlock = kernels ∧
      ClosureFree (Document.anonymous (render 4 kernels)).structuralDiagnostics ∧
      (Document.anonymous (render 4 kernels)).layoutDiagnostics 4 = [] :=
  ⟨by decide, read_render (by decide) 4 Document.unnamed⟩

end Deck

end InputDeck
