import InputDeck.Proofs.Line.Tag
import InputDeck.Proofs.Outline.Branches
import InputDeck.Proofs.Diagnostic.Sorting

/-!
The inventory of an outline.  Its blocks are the opening tags of the document, save for the blocks
without a name that stray sub-blocks get; its parameters are the ones that stand below an open
block, each in the innermost one; and a name is found to be taken as often as it is.
-/

namespace InputDeck

namespace Outline

/-! What the rows of a document hold. -/

def Heading.ofRow? (row : Nat) (line : Line) : Option Heading :=
  match line.content with
  | .openTop name => some ⟨.top, name, ⟨row, line.indent⟩⟩
  | .openSub name => some ⟨.sub, name, ⟨row, line.indent⟩⟩
  | _ => none

/-- Whether a tag opens the block: a block that is supplied for a sub-block has no name. -/
def Heading.tagged (heading : Heading) : Bool :=
  heading.level == .sub || !heading.name.isEmpty

/-- The blocks that are open below a row, by those that are open above it. -/
def openBelow (row : Nat) (line : Line) (opened : List Heading) : List Heading :=
  match line.content with
  | .openTop name => [⟨.top, name, ⟨row, line.indent⟩⟩]
  | .closeTop => []
  | .openSub name =>
      [opened.headD ⟨.top, [], ⟨row, line.indent⟩⟩, ⟨.sub, name, ⟨row, line.indent⟩⟩]
  | .closeSub => opened.take 1
  | _ => opened

def given? (row : Nat) (line : Line) (opened : List Heading) : Option (Heading × Parameter) :=
  match opened.getLast?, line.content with
  | some innermost, .parameter name value => some (innermost, .ofRow row line name value)
  | _, _ => none

/-- The blocks that some rows open. -/
def headingsOf (rows : List Text) : List Heading :=
  rows.zipIdx.filterMap fun numbered => Heading.ofRow? numbered.2 (Line.read numbered.1)

/-- The blocks that are open below some rows, the innermost one last. -/
def openBlocks (rows : List Text) : List Heading :=
  rows.zipIdx.foldl (fun opened numbered => openBelow numbered.2 (Line.read numbered.1) opened) []

/-- The parameters that some rows give to blocks, each with its block. -/
def givenBy (rows : List Text) : List (Heading × Parameter) :=
  rows.zipIdx.filterMap fun numbered =>
    given? numbered.2 (Line.read numbered.1) (openBlocks (rows.take numbered.2))

/-! What an outline holds. -/

def repeatsAfter {α : Type} (name : α → Text) : List Text → List α → List α
  | _, [] => []
  | seen, item :: rest =>
      (if seen.contains (name item) then [item] else []) ++
        repeatsAfter name (name item :: seen) rest

/-- The items that come after one of the same name. -/
def repeats {α : Type} (name : α → Text) (items : List α) : List α :=
  repeatsAfter name [] items

def OpenBlock.given (level : Level) (block : OpenBlock) : List (Heading × Parameter) :=
  block.parameters.map fun parameter => (block.heading level, parameter)

/-- What is found about the parameters of a block. -/
def OpenBlock.repeated (block : OpenBlock) : List Diagnostic :=
  (repeats (·.name) block.parameters).map Parameter.repeated

namespace Branch

def heading (branch : Branch) : Heading :=
  branch.block.heading .top

def subHeadings (branch : Branch) : List Heading :=
  branch.children.map (OpenBlock.heading .sub)

def headings (branch : Branch) : List Heading :=
  branch.heading :: branch.subHeadings

def given (branch : Branch) : List (Heading × Parameter) :=
  branch.block.given .top ++ branch.children.flatMap (OpenBlock.given .sub)

/-- What is found about names inside a block. -/
def repeated (taken : Heading → Diagnostic) (branch : Branch) : List Diagnostic :=
  (repeats (·.name) branch.subHeadings).map taken ++
    (branch.block.repeated ++ branch.children.flatMap OpenBlock.repeated)

end Branch

/-- What is found about names: blocks that no tag opens are passed over. -/
def repeated (taken : Heading → Diagnostic) (branches : List Branch) : List Diagnostic :=
  ((repeats (·.name) (branches.map Branch.heading)).filter Heading.tagged).map taken ++
    branches.flatMap (Branch.repeated taken)

section Repeats

variable {α : Type} (name : α → Text)

theorem repeatsAfter_concat (seen : List Text) (items : List α) (item : α) :
    repeatsAfter name seen (items ++ [item]) =
      repeatsAfter name seen items ++
        if name item ∈ seen ∨ name item ∈ items.map name then [item] else [] := by
  induction items generalizing seen with
  | nil => simp [repeatsAfter]
  | cons first items ih =>
      have moved : (name item ∈ name first :: seen ∨ name item ∈ items.map name) ↔
          (name item ∈ seen ∨ name item ∈ (first :: items).map name) := by
        simp only [List.map_cons, List.mem_cons, or_assoc, or_left_comm]
      simp only [List.cons_append, repeatsAfter, ih, moved, List.append_assoc]

theorem repeats_concat (items : List α) (item : α) :
    repeats name (items ++ [item]) =
      repeats name items ++ if name item ∈ items.map name then [item] else [] := by
  simp [repeats, repeatsAfter_concat]

theorem map_repeats_concat (items : List α) (item : α) (finding : α → Diagnostic) :
    (repeats name (items ++ [item])).map finding =
      (repeats name items).map finding ++
        ifTaken (items.map name) (name item) (finding item) := by
  rw [repeats_concat, List.map_append, ifTaken]
  split <;> rfl

end Repeats

theorem perm_append_last {α : Type} (first second news : List α) :
    (first ++ news ++ second).Perm (first ++ second ++ news) := by
  rw [List.append_assoc, List.append_assoc]
  exact List.perm_append_comm.append_left first

@[simp]
theorem OpenBlock.heading_add (level : Level) (block : OpenBlock) (parameter : Parameter) :
    (block.add parameter).heading level = block.heading level := rfl

theorem OpenBlock.given_add (level : Level) (block : OpenBlock) (parameter : Parameter) :
    (block.add parameter).given level =
      block.given level ++ [(block.heading level, parameter)] := by
  simp [given, add, heading]

theorem OpenBlock.repeated_add (block : OpenBlock) (parameter : Parameter) :
    (block.add parameter).repeated =
      block.repeated ++
        ifTaken (block.parameters.map (·.name)) parameter.name parameter.repeated :=
  map_repeats_concat _ block.parameters parameter Parameter.repeated

theorem perm_repeated_last {taken : Heading → Diagnostic} (before : List Branch)
    {last grown : Branch} {news : List Diagnostic} (heading : grown.heading = last.heading)
    (more : (grown.repeated taken).Perm (last.repeated taken ++ news)) :
    (repeated taken (before ++ [grown])).Perm (repeated taken (before ++ [last]) ++ news) := by
  have inner := more.append_left (before.flatMap (Branch.repeated taken))
  simp only [repeated, List.map_append, List.map_singleton, heading, List.flatMap_append,
    List.flatMap_singleton, List.append_assoc] at inner ⊢
  exact inner.append_left _

theorem perm_repeated_concat {taken : Heading → Diagnostic} (branches : List Branch)
    {branch : Branch} (quiet : branch.repeated taken = []) :
    (repeated taken (branches ++ [branch])).Perm
      (repeated taken branches ++
        if branch.heading.tagged then
          ifTaken (branches.map (·.block.name)) branch.block.name (taken branch.heading)
        else []) := by
  have names : (branches.map Branch.heading).map (·.name) = branches.map (·.block.name) := by
    simp [Branch.heading, OpenBlock.heading]
  have named : branch.heading.name = branch.block.name := rfl
  have tops : ((repeats (·.name) ((branches ++ [branch]).map Branch.heading)).filter
      Heading.tagged).map taken =
      ((repeats (·.name) (branches.map Branch.heading)).filter Heading.tagged).map taken ++
        if branch.heading.tagged then
          ifTaken (branches.map (·.block.name)) branch.block.name (taken branch.heading)
        else [] := by
    rw [List.map_append, List.map_singleton, repeats_concat, names, named, ifTaken]
    cases tagged : branch.heading.tagged <;> split <;> simp [tagged]
  rw [repeated, tops, List.flatMap_append, List.flatMap_singleton, quiet, List.append_nil]
  exact perm_append_last _ _ _

theorem Heading.tagged_of_openTop {line : Line} {name : Text}
    (reads : line.content = .openTop name) (named : line.content ≠ .openTop []) (start : Position) :
    (⟨.top, name, start⟩ : Heading).tagged = true := by
  cases name with
  | nil => exact absurd reads named
  | cons c rest => rfl

namespace Sprouts

variable {row : Nat} {line : Line} {branches grown : List Branch} {opened next : List Heading}
  {news : List Diagnostic}

theorem opened_eq (sprouts : Sprouts row line branches opened grown next news) :
    next = openBelow row line opened := by
  cases sprouts with
  | idle _ _ passed => rcases passed with reads | reads | reads <;> simp [openBelow, reads]
  | openTop _ _ reads | closeTop _ _ reads | closeSub _ _ reads | outside _ reads
  | givenTop _ _ reads | givenSub _ _ _ _ reads | openSub _ _ _ reads | stray _ reads =>
      simp [openBelow, reads]

theorem exists_fresh (sprouts : Sprouts row line branches opened grown next news)
    (named : line.content ≠ .openTop []) :
    ∃ fresh, grown.flatMap Branch.headings = branches.flatMap Branch.headings ++ fresh ∧
      fresh.filter Heading.tagged = (Heading.ofRow? row line).toList ∧
      fresh.Nodup ∧ ∀ heading ∈ fresh, heading.start.row = row := by
  cases sprouts with
  | idle _ _ passed =>
      refine ⟨[], (List.append_nil _).symm, ?_, List.nodup_nil, by simp⟩
      rcases passed with reads | reads | reads <;> simp [Heading.ofRow?, reads]
  | closeTop _ _ reads | closeSub _ _ reads | outside _ reads =>
      exact ⟨[], (List.append_nil _).symm, by simp [Heading.ofRow?, reads], List.nodup_nil, by simp⟩
  | @openTop _ _ name reads =>
      have tagged := Heading.tagged_of_openTop reads named ⟨row, line.indent⟩
      refine ⟨[⟨.top, name, ⟨row, line.indent⟩⟩], ?_, ?_, List.nodup_singleton _, by simp⟩
      · simp [Branch.headings, Branch.heading, Branch.subHeadings, OpenBlock.heading]
      · simp [Heading.ofRow?, reads, tagged]
  | @openSub before last _ name reads =>
      refine ⟨[⟨.sub, name, ⟨row, line.indent⟩⟩], ?_, ?_, List.nodup_singleton _, by simp⟩
      · simp [Branch.headings, Branch.heading, Branch.subHeadings, OpenBlock.heading]
      · simp [Heading.ofRow?, reads, Heading.tagged]
  | @stray _ name reads =>
      refine ⟨[⟨.top, [], ⟨row, line.indent⟩⟩, ⟨.sub, name, ⟨row, line.indent⟩⟩], ?_, ?_,
        by simp, by simp⟩
      · simp [Branch.headings, Branch.heading, Branch.subHeadings, OpenBlock.heading]
      · simp [Heading.ofRow?, reads, Heading.tagged]
  | givenTop _ _ reads | givenSub _ _ _ _ reads =>
      refine ⟨[], ?_, by simp [Heading.ofRow?, reads], List.nodup_nil, by simp⟩
      simp [Branch.headings, Branch.heading, Branch.subHeadings]

theorem perm_given (sprouts : Sprouts row line branches opened grown next news) :
    (grown.flatMap Branch.given).Perm
      (branches.flatMap Branch.given ++ (given? row line opened).toList) := by
  cases sprouts with
  | idle _ _ passed => rcases passed with reads | reads | reads <;> simp [given?, reads]
  | closeTop _ _ reads | closeSub _ _ reads | outside _ reads => simp [given?, reads]
  | openTop _ _ reads | openSub _ _ _ reads | stray _ reads =>
      simp [given?, reads, Branch.given, OpenBlock.given]
  | @givenTop before last name value reads =>
      have moved := perm_append_last (last.block.given .top)
        (last.children.flatMap (OpenBlock.given .sub))
        [(last.block.heading .top, Parameter.ofRow row line name value)]
      have whole := moved.append_left (before.flatMap Branch.given)
      simpa [given?, reads, Branch.given, OpenBlock.given_add] using whole
  | givenSub before block children last reads =>
      simp [given?, reads, Branch.given, OpenBlock.given_add]

theorem perm_repeated (sprouts : Sprouts row line branches opened grown next news)
    (named : line.content ≠ .openTop []) {taken : Heading → Diagnostic}
    (spans : ∀ level name, taken ⟨level, name, ⟨row, line.indent⟩⟩ =
      { problem := .duplicateBlock name,
        start := ⟨row, line.indent⟩, stop := ⟨row, line.stop⟩ }) :
    (repeated taken grown).Perm (repeated taken branches ++ news) := by
  cases sprouts with
  | idle | closeTop | closeSub | outside => simp
  | @openTop _ _ name reads =>
      have tagged := Heading.tagged_of_openTop reads named ⟨row, line.indent⟩
      have quiet : ({ block := { name, start := ⟨row, line.indent⟩ } } : Branch).repeated taken =
          [] := rfl
      have more := perm_repeated_concat branches quiet
      simpa [Branch.heading, OpenBlock.heading, tagged, spans] using more
  | @openSub before last _ name reads =>
      refine perm_repeated_last before rfl ?_
      have child := map_repeats_concat (·.name) last.subHeadings
        ⟨.sub, name, ⟨row, line.indent⟩⟩ taken
      have names : last.subHeadings.map (·.name) = last.children.map (·.name) := by
        simp [Branch.subHeadings, OpenBlock.heading]
      rw [spans, names] at child
      have moved := perm_append_last ((repeats (·.name) last.subHeadings).map taken)
        (last.block.repeated ++ last.children.flatMap OpenBlock.repeated)
        (ifTaken (last.children.map (·.name)) name
          { problem := .duplicateBlock name,
            start := ⟨row, line.indent⟩, stop := ⟨row, line.stop⟩ })
      have quiet : ({ name, start := ⟨row, line.indent⟩ } : OpenBlock).repeated = [] := rfl
      rw [← child] at moved
      simpa [Branch.repeated, Branch.subHeadings, OpenBlock.heading, quiet] using moved
  | @stray _ name reads =>
      have quiet : ({
          block := { name := [], start := ⟨row, line.indent⟩ },
          children := [{ name, start := ⟨row, line.indent⟩ }] } : Branch).repeated taken = [] := rfl
      have more := perm_repeated_concat branches quiet
      simpa [Branch.heading, OpenBlock.heading, Heading.tagged] using more
  | @givenTop before last name value reads =>
      refine perm_repeated_last before rfl ?_
      have moved := perm_append_last
        ((repeats (·.name) last.subHeadings).map taken ++ last.block.repeated)
        (last.children.flatMap OpenBlock.repeated)
        (ifTaken (last.block.parameters.map (·.name)) name
          (Parameter.ofRow row line name value).repeated)
      simpa [Branch.repeated, Branch.subHeadings, OpenBlock.repeated_add, Parameter.ofRow]
        using moved
  | @givenSub before block children last name value reads =>
      refine perm_repeated_last before ?_ ?_
      · rfl
      · simp [Branch.repeated, Branch.subHeadings, OpenBlock.repeated_add, Parameter.ofRow]

/-- A row finds at most one name to be taken, and that in the row. -/
theorem news_cases (sprouts : Sprouts row line branches opened grown next news) :
    news = [] ∨ ∃ diagnostic : Diagnostic, news = [diagnostic] ∧ diagnostic.start.row = row := by
  have single (names : List Text) (name : Text) {diagnostic : Diagnostic}
      (here : diagnostic.start.row = row) : ifTaken names name diagnostic = [] ∨
        ∃ found : Diagnostic, ifTaken names name diagnostic = [found] ∧ found.start.row = row := by
    rw [ifTaken]
    split
    · exact .inr ⟨diagnostic, rfl, here⟩
    · exact .inl rfl
  cases sprouts with
  | idle | closeTop | closeSub | outside | stray => exact .inl rfl
  | openTop | openSub | givenTop | givenSub => exact single _ _ rfl

end Sprouts

section Rows

variable (rows : List Text) (text : Text)

theorem openBlocks_concat :
    openBlocks (rows ++ [text]) = openBelow rows.length (Line.read text) (openBlocks rows) := by
  simp [openBlocks, List.zipIdx_append]

theorem headingsOf_concat :
    headingsOf (rows ++ [text]) =
      headingsOf rows ++ (Heading.ofRow? rows.length (Line.read text)).toList := by
  rw [headingsOf, List.zipIdx_append, List.filterMap_append, headingsOf]
  cases opens : Heading.ofRow? rows.length (Line.read text) <;> simp [opens]

theorem givenBy_concat :
    givenBy (rows ++ [text]) =
      givenBy rows ++ (given? rows.length (Line.read text) (openBlocks rows)).toList := by
  have above : ∀ numbered ∈ rows.zipIdx,
      given? numbered.2 (Line.read numbered.1)
          (openBlocks ((rows ++ [text]).take numbered.2)) =
        given? numbered.2 (Line.read numbered.1) (openBlocks (rows.take numbered.2)) := by
    intro numbered member
    have bound := List.snd_lt_of_mem_zipIdx member
    rw [List.take_append_of_le_length (by omega)]
  rw [givenBy, List.zipIdx_append, List.filterMap_append, List.filterMap_congr above, givenBy]
  cases gives : given? rows.length (Line.read text) (openBlocks rows) <;> simp [gives]

theorem pairwise_givenBy : (givenBy rows).Pairwise (·.2.start.row < ·.2.start.row) := by
  have numbers : rows.zipIdx.Pairwise (·.2 < ·.2) := by
    rw [← List.pairwise_map (R := (· < ·)), List.zipIdx_map_snd]
    exact List.pairwise_lt_range'
  have placed {row : Nat} {line : Line} {opened : List Heading} {pair : Heading × Parameter}
      (gives : given? row line opened = some pair) : pair.2.start.row = row := by
    unfold given? at gives
    split at gives
    · obtain rfl := Option.some.inj gives
      rfl
    · cases gives
  rw [givenBy, List.pairwise_filterMap]
  refine numbers.imp ?_
  intro first second before one gives other givesOther
  rw [placed gives, placed givesOther]
  omega

end Rows

namespace State

structure Inventoried (rows : List Text) (state : State) : Prop where
  opened : state.opened = openBlocks rows
  headings : (state.branches.flatMap Branch.headings).filter Heading.tagged = headingsOf rows
  distinct : (state.branches.flatMap Branch.headings).Nodup
  above : ∀ heading ∈ state.branches.flatMap Branch.headings, heading.start.row < rows.length
  given : (state.branches.flatMap Branch.given).Perm (givenBy rows)

/-- What has been found about names is what there is to be found, row by row. -/
structure Told (rows : List Text) (taken : Heading → Diagnostic) (state : State) : Prop where
  repeated : state.duplications.Perm (repeated taken state.branches)
  ascending : state.duplications.Pairwise (·.start.row < ·.start.row)
  above : ∀ diagnostic ∈ state.duplications, diagnostic.start.row < rows.length

/-- A finding about the name of a block spans the tag that opens it. -/
def Tells (rows : List Text) (taken : Heading → Diagnostic) : Prop :=
  ∀ (row : Nat) (text : Text), rows[row]? = some text → ∀ level name,
    taken ⟨level, name, ⟨row, (Line.read text).indent⟩⟩ =
      { problem := .duplicateBlock name,
        start := ⟨row, (Line.read text).indent⟩, stop := ⟨row, (Line.read text).stop⟩ }

theorem named_of_read (text : Text) : (Line.read text).content ≠ .openTop [] := by
  intro reads
  obtain ⟨c, rest, impossible, -⟩ :=
    ((Line.content_eq_opening_iff .top [] text).mp reads).1.fits
  cases impossible

section Step

variable {rows : List Text} {taken : Heading → Diagnostic} {state : State}

theorem Inventoried.step (inventoried : state.Inventoried rows) (text : Text)
    (here : state.row = rows.length) : (state.step text).Inventoried (rows ++ [text]) := by
  obtain ⟨news, found, sprouts⟩ := state.sprouts_step text
  rw [here] at sprouts
  obtain ⟨fresh, headings, tagged, single, placed⟩ := sprouts.exists_fresh (named_of_read text)
  constructor
  · rw [sprouts.opened_eq, openBlocks_concat, inventoried.opened]
  · rw [headings, List.filter_append, tagged, headingsOf_concat, inventoried.headings]
  · rw [headings, List.nodup_append]
    refine ⟨inventoried.distinct, single, ?_⟩
    rintro heading before other new rfl
    have above := inventoried.above heading before
    rw [placed heading new] at above
    exact absurd above (Int.lt_irrefl _)
  · rw [headings, List.forall_mem_append, List.length_append, List.length_singleton]
    refine ⟨fun heading before => ?_, fun heading new => ?_⟩
    · have above := inventoried.above heading before
      omega
    · rw [placed heading new]
      omega
  · rw [givenBy_concat, ← inventoried.opened]
    exact sprouts.perm_given.trans (inventoried.given.append_right _)

theorem Told.step (told : state.Told rows taken) (text : Text) (here : state.row = rows.length)
    (tells : Tells (rows ++ [text]) taken) : (state.step text).Told (rows ++ [text]) taken := by
  obtain ⟨news, found, sprouts⟩ := state.sprouts_step text
  rw [here] at sprouts
  have spans := tells rows.length text (by simp)
  have repeated := (told.repeated.append_right news).trans
    (sprouts.perm_repeated (named_of_read text) spans).symm
  rw [← found] at repeated
  have higher : ∀ diagnostic ∈ state.duplications,
      diagnostic.start.row < ((rows ++ [text]).length : Nat) := by
    intro diagnostic before
    have above := told.above diagnostic before
    rw [List.length_append]
    omega
  rcases sprouts.news_cases with rfl | ⟨diagnostic, rfl, row⟩
  · rw [List.append_nil] at found
    exact ⟨repeated, found ▸ told.ascending, found ▸ higher⟩
  · refine ⟨repeated, ?_, ?_⟩
    · rw [found, List.pairwise_append]
      refine ⟨told.ascending, List.pairwise_singleton _ _, ?_⟩
      intro earlier before later last
      rw [List.mem_singleton.mp last, row]
      exact told.above earlier before
    · rw [found, List.forall_mem_append]
      refine ⟨higher, fun other last => ?_⟩
      rw [List.mem_singleton.mp last, row, List.length_append, List.length_singleton]
      omega

end Step

theorem inventoried_run (rows : List Text) : (run {} rows).Inventoried rows := by
  induction rows using List.reverseRecOn with
  | nil => exact ⟨rfl, rfl, List.nodup_nil, by simp [branches], List.Perm.refl _⟩
  | append_singleton rows text ih =>
      rw [run_append]
      exact ih.step text (by simp [row_run])

theorem told_run {rows : List Text} {taken : Heading → Diagnostic} (tells : Tells rows taken) :
    (run {} rows).Told rows taken := by
  induction rows using List.reverseRecOn with
  | nil => exact ⟨List.Perm.refl _, List.Pairwise.nil, by simp [duplications]⟩
  | append_singleton rows text ih =>
      have earlier : Tells rows taken := by
        intro row other here
        have bound := (List.getElem?_eq_some_iff.mp here).1
        exact tells row other (by rw [List.getElem?_append_left bound, here])
      rw [run_append]
      exact (ih earlier).step text (by simp [row_run]) tells

end State

end Outline

namespace Document

open Outline

def branches (doc : Document) : List Branch :=
  doc.outline.map TopBlock.branch

/-- The finding that the name of a block is taken, about the tag that opens the block. -/
def nameTaken (doc : Document) (heading : Heading) : Diagnostic where
  problem := .duplicateBlock heading.name
  start := heading.start
  stop := ⟨heading.start.row, (Line.read (doc.row heading.start.row)).stop⟩

/-- The outline of a document holds all that its rows do and nothing else, whatever is wrong with
them: the opening tags in their order, the parameters below an open block in the innermost one, and
one finding for each block or parameter with one of its name before it. -/
theorem outline_inventory (doc : Document) :
    (doc.branches.flatMap Branch.headings).Nodup ∧
      (doc.branches.flatMap Branch.headings).filter Heading.tagged = headingsOf doc.rows ∧
      (doc.branches.flatMap Branch.given).mergeSort
          (fun a b => decide (a.2.start.row ≤ b.2.start.row)) = givenBy doc.rows ∧
      doc.structuralDiagnostics.filter (fun diagnostic => diagnostic.kind == .duplication) =
        Diagnostic.sortByStart (repeated doc.nameTaken doc.branches) := by
  have tells : State.Tells doc.rows doc.nameTaken := by
    intro row text here level name
    have same : doc.row row = text := by
      simp [Document.row, here]
    simp [nameTaken, same]
  have inventoried := State.inventoried_run doc.rows
  have told := State.told_run tells
  have branches : doc.branches = (State.run {} doc.rows).branches := by
    rw [← State.branches_finish, State.branches, State.current_finish]
    simp [Document.branches, outline, Outline.read]
  have duplications : doc.structuralDiagnostics.filter
      (fun diagnostic => diagnostic.kind == .duplication) =
        (State.run {} doc.rows).duplications :=
    State.duplications_finish _
  have given := pairwise_givenBy doc.rows
  have givenRows : ((givenBy doc.rows).map (·.2.start.row)).Nodup := by
    rw [List.Nodup, List.pairwise_map]
    exact given.imp Int.ne_of_lt
  have toldRows : ((State.run {} doc.rows).duplications.map (·.start.row)).Nodup := by
    rw [List.Nodup, List.pairwise_map]
    exact told.ascending.imp Int.ne_of_lt
  rw [branches, duplications]
  refine ⟨inventoried.distinct, inventoried.headings, ?_, ?_⟩
  · refine Edit.eq_of_perm_of_keys ?_ givenRows
      ((List.mergeSort_perm _ _).trans inventoried.given) (List.pairwise_mergeSort ?_ ?_ _) ?_
    · intro a b before after
      simp only [decide_eq_true_eq] at before after
      omega
    · intro a b c first second
      simp only [decide_eq_true_eq] at first second ⊢
      omega
    · intro a b
      simp only [Bool.or_eq_true, decide_eq_true_eq]
      omega
    · exact given.imp fun above => decide_eq_true (Int.le_of_lt above)
  · symm
    refine Edit.eq_of_perm_of_keys ?_ toldRows
      ((List.mergeSort_perm _ _).trans told.repeated.symm) (Diagnostic.pairwise_sortByStart _) ?_
    · intro a b before after
      exact congrArg Position.row (Position.le_antisymm before after)
    · exact told.ascending.imp .inl

end Document

end InputDeck
