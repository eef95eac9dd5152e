import InputDeck.Proofs.Analysis.Missing

/-!
Fixing a document once is enough.  Where its blocks are closed, the fixed document is laid out, and
every block has the parameters that it has to set, so that nothing is left to correct.
-/

namespace InputDeck

open Text

namespace Deck

open Outline

theorem find?_ofBlock (block : Block) (name : Text) :
    (Sub.ofBlock block).entries.find? (fun entry => entry.name == name) =
      (block.parameter? name).map Entry.ofParameter :=
  List.find?_map ..

theorem type?_eq (block : Block) :
    block.type? = (((Sub.ofBlock block).entries.find?
      (fun entry => entry.name == "type".toList)).bind (·.value)).map Text.unquote := by
  rw [find?_ofBlock, Option.bind_map]
  rfl

end Deck

namespace Analysis

open Outline Schema Edit Layout Deck

section Supply

theorem take_drop_of_append {text first second : Text} (whole : text = first ++ second) :
    text.take first.length = first ∧ text.drop first.length = second := by
  rw [whole]
  exact ⟨List.take_left, List.drop_left⟩

variable {rows : List Text} {cases : List Case}

/-- The parameters that a block lacks, as they are written below its tag. -/
def Case.supply (rows : List Text) (case : Case) : List Entry :=
  defaultEntries case.missing ((rows.getD case.block.start.row.toNat []).drop
    (case.block.headerEnd case.level).column.toNat)

def supplyOf (rows : List Text) (cases : List Case) (row : Int) : List Entry :=
  (startingIn row cases).flatMap (Case.supply rows)

theorem Located.supplyOf_of_mem (located : Located rows cases) {case : Case}
    (member : case ∈ cases) : supplyOf rows cases case.block.start.row = case.supply rows := by
  rw [supplyOf, located.startingIn_of_mem member, List.flatMap_singleton]

theorem Case.Every.missing {holds : Param → Prop} {case : Case} (every : case.Every holds) :
    ∀ param ∈ case.missing, holds param ∧ param.required = true := by
  intro param member
  unfold Case.missing at member
  split at member
  · cases member
  · next reply given =>
      split at member
      · obtain ⟨known, needed⟩ := List.mem_filter.mp member
        rw [Bool.and_eq_true] at needed
        exact ⟨every reply given param known, needed.1⟩
      · cases member

theorem Located.filled (located : Located rows cases)
    (lexable : ∀ case ∈ cases, case.Every Param.Lexable) (width : Int) {row : Nat} {text : Text}
    (here : rows[row]? = some text) :
    Filled width text
      (written (fun row => (startingIn row cases).flatMap (Case.insertions width)) row text)
      (supplyOf rows cases row) := by
  rw [written, supplyOf]
  rcases located.startingIn_cases row with none | ⟨case, member, start, one⟩
  · rw [none]
    exact .same
  · rw [one, List.flatMap_singleton, List.flatMap_singleton]
    obtain ⟨other, line, there, opened, place⟩ := located.opens case member
    obtain rfl : other = row := by
      rw [place] at start
      exact Int.ofNat.inj start
    obtain rfl : line = text := Option.some.inj (there.symm.trans here)
    obtain ⟨tail, behind⟩ := ((Line.content_eq_opening_iff _ _ _).mp opened).2
    have whole : line = line.takeWhile isBlank ++ (case.level.tag case.block.name ++ tail) := by
      rw [behind]
      exact eq_takeWhile_append_trimStart line
    have stop : (case.block.headerEnd case.level).column =
        (((line.takeWhile isBlank).length + (case.level.tag case.block.name).length : Nat) :
          Int) := by
      rw [Block.headerEnd_eq case.level place]
    have cut := take_drop_of_append (whole.trans (List.append_assoc _ _ _).symm)
    rw [List.length_append] at cut
    have supply : case.supply rows = defaultEntries case.missing tail := by
      have row : case.block.start.row.toNat = other := by rw [place]; rfl
      rw [Case.supply, stop, row, List.getD_eq_getElem?_getD, here, Option.getD_some,
        Int.toNat_natCast, cut.2]
    have result : (case.insertions width).foldl onRow line = line.takeWhile isBlank ++
        (case.level.tag case.block.name ++
          case.missing.flatMap (defaultRow width case.level) ++ tail) := by
      unfold Case.insertions
      split
      · next none =>
          rw [List.isEmpty_iff] at none
          rw [none, List.flatMap_nil, List.append_nil]
          exact whole
      · have spliced := splice_insertAfter line
          (case.missing.flatMap (defaultRow width case.level)) (line.takeWhile isBlank).length
          ((line.takeWhile isBlank).length + (case.level.tag case.block.name).length)
        rw [cut.1, cut.2, ← stop] at spliced
        simp only [List.foldl_cons, List.foldl_nil, onRow, place]
        rw [spliced]
        simp
    rw [supply, result]
    exact .below case.level opened whole fun param inside =>
      ((lexable case member).missing param inside).1

end Supply

/-! The same blocks with more parameters. -/

section Extended

variable {supply : Int → List Entry}

/-- A block, and the same block behind a supply of parameters. -/
structure Subject.Extended (supply : Int → List Entry) (first second : Subject) : Prop where
  path : second.path = first.path
  block : Sub.ofBlock second.block = Sub.supplied supply first.block

private theorem forall₂_of_map_eq {α β γ : Type} {f : α → γ} {g : β → γ} {first : List α}
    {second : List β} (same : second.map g = first.map f) :
    List.Forall₂ (fun one other => g other = f one) first second := by
  have equal : List.Forall₂ (· = ·) (second.map g) (first.map f) := by
    rw [List.forall₂_eq_eq_eq]
    exact same
  rw [List.forall₂_map_left_iff, List.forall₂_map_right_iff] at equal
  exact equal.flip

theorem subjects_extended_of_top {top other : TopBlock}
    (same : Top.ofBlock other = Top.supplied supply top) :
    List.Forall₂ (Subject.Extended supply) (subjects top) (subjects other) := by
  have own : Sub.ofBlock other.toBlock = Sub.supplied supply top.toBlock := congrArg Top.toSub same
  have name : other.name = top.name := congrArg Sub.name own
  have below := forall₂_of_map_eq (congrArg Top.subs same)
  unfold subjects
  rw [name]
  split
  · exact .nil
  · refine .cons ⟨rfl, own⟩ ?_
    rw [List.forall₂_map_left_iff, List.forall₂_map_right_iff]
    refine below.imp fun child again extended => ⟨?_, extended⟩
    rw [show again.name = child.name from congrArg Sub.name extended]

theorem subjects_extended {tops others : List TopBlock}
    (same : others.map Top.ofBlock = tops.map (Top.supplied supply)) :
    List.Forall₂ (Subject.Extended supply) (tops.flatMap subjects) (others.flatMap subjects) :=
  List.rel_flatMap (forall₂_of_map_eq same) fun _ _ => subjects_extended_of_top

theorem Subject.Extended.parameter?_eq {first second : Subject}
    (extended : first.Extended supply second) (name : Text) :
    (second.block.parameter? name).map Entry.ofParameter =
      ((supply first.block.start.row).find? (fun entry => entry.name == name)).or
        ((first.block.parameter? name).map Entry.ofParameter) := by
  rw [← find?_ofBlock, extended.block, Sub.supplied, List.find?_append]
  exact congrArg _ (find?_ofBlock first.block name)

theorem Subject.Extended.alike {first second : Subject} (extended : first.Extended supply second)
    (untyped : ∀ entry ∈ supply first.block.start.row, entry.name ≠ "type".toList) :
    first.Alike second where
  path := extended.path
  type := by
    have absent : (supply first.block.start.row).find?
        (fun entry => entry.name == "type".toList) = none := by
      rw [List.find?_eq_none]
      intro entry member
      simpa using untyped entry member
    rw [type?_eq, type?_eq, find?_ofBlock, find?_ofBlock, extended.parameter?_eq, absent]
    rfl

theorem unknownType_isEmpty (block : Block) (types : List Node) :
    (unknownType block types).isEmpty = block.type?.all (fun type =>
      type.isEmpty || types.isEmpty || types.any (fun node => node.lastSegment == type)) := by
  unfold unknownType
  cases given : block.type? with
  | none => cases block.parameter? "type".toList <;> rfl
  | some type =>
      cases found : block.parameter? "type".toList with
      | none =>
          rw [Block.type?, Block.valueOf?, found] at given
          cases given
      | some item =>
          simp only [Option.all_some]
          split
          · next known => exact known.symm
          · next unknown => simpa using unknown

theorem missing_of_extended {case other : Case} (reply : other.reply = case.reply)
    (extended : case.toSubject.Extended supply other.toSubject)
    (untyped : ∀ entry ∈ supply case.block.start.row, entry.name ≠ "type".toList)
    (names : (supply case.block.start.row).map (·.name) = case.missing.map (·.name)) :
    other.missing = [] := by
  have known : ∀ types, (unknownType other.block types).isEmpty =
      (unknownType case.block types).isEmpty := by
    intro types
    rw [unknownType_isEmpty, unknownType_isEmpty, (extended.alike untyped).type]
  cases given : case.reply with
  | none => rw [Case.missing, reply, given]
  | some reply' =>
      rw [Case.missing, given] at names
      rw [Case.missing, reply, given]
      simp only [known] at names ⊢
      split
      · next typed =>
          rw [if_pos typed] at names
          rw [List.filter_eq_nil_iff]
          intro param member needed
          rw [Bool.and_eq_true, Option.isNone_iff_eq_none] at needed
          have absent := extended.parameter?_eq param.name
          rw [needed.2, Option.map_none, eq_comm, Option.or_eq_none_iff, Option.map_eq_none_iff,
            List.find?_eq_none] at absent
          have inside : param.name ∈ (supply case.block.start.row).map (·.name) := by
            rw [names]
            apply List.mem_map_of_mem
            rw [List.mem_filter, needed.1, absent.2]
            exact ⟨member, rfl⟩
          obtain ⟨entry, supplied, named⟩ := List.mem_map.mp inside
          exact absent.1 entry supplied (by simpa using named)
      · rfl

end Extended

/-! Fixing twice. -/

section Fixed

variable {doc : Document} {catalog : Catalog} {width : Int}

theorem untyped_supplyOf {rows : List Text} {cases : List Case}
    (lexable : ∀ case ∈ cases, case.Every Param.Lexable) (row : Int) :
    ∀ entry ∈ supplyOf rows cases row, entry.name ≠ "type".toList := by
  intro entry member typed
  obtain ⟨case, inRow, supplied⟩ := List.mem_flatMap.mp member
  have inside := @List.mem_map_of_mem _ _ _ _ Entry.name supplied
  rw [Case.supply, names_defaultEntries] at inside
  obtain ⟨param, missing, named⟩ := List.mem_map.mp inside
  obtain ⟨own, required⟩ := (lexable case (List.mem_filter.mp inRow).1).missing param missing
  rw [own.untyped (named.trans typed)] at required
  cases required

private theorem exists_of_mem_right {α β : Type} {related : α → β → Prop} {first : List α}
    {second : List β} (pairs : List.Forall₂ related first second) {other : β}
    (member : other ∈ second) : ∃ one ∈ first, related one other := by
  induction pairs with
  | nil => cases member
  | @cons one two first second pair pairs ih =>
      rcases List.mem_cons.mp member with rfl | later
      · exact ⟨one, List.mem_cons_self, pair⟩
      · obtain ⟨found, inside, holds⟩ := ih later
        exact ⟨found, List.mem_cons_of_mem one inside, holds⟩

theorem missing_inspect {other : Document} (lexable : catalog.Every Param.Lexable)
    (blocks : other.outline.map Top.ofBlock = doc.outline.map
      (Top.supplied (supplyOf doc.rows ((inspect doc).run catalog).1)))
    {later : Catalog} (after : later = catalog ∨ ((inspect doc).run catalog).2 ≤ later) :
    ∀ case ∈ ((inspect other).run later).1, case.missing = [] := by
  let cases := ((inspect doc).run catalog).1
  have each : ∀ case ∈ cases, case.Every Param.Lexable := (yields_inspect doc catalog lexable).1
  have untyped := @untyped_supplyOf doc.rows cases each
  have pairs := inspect_related (fun _ _ extended => extended.alike (untyped _))
    (subjects_extended blocks) after
  intro again member
  obtain ⟨case, inside, extended, reply⟩ := exists_of_mem_right pairs member
  apply missing_of_extended reply extended (untyped _)
  rw [(located_inspect doc catalog).supplyOf_of_mem inside, Case.supply, names_defaultEntries]

theorem idle_assess (closed : ClosureFree doc.structuralDiagnostics)
    (complete : ∀ case ∈ ((inspect doc).run catalog).1, case.missing = [])
    (laid : doc.layoutDiagnostics width = []) (nonzero : width ≠ 0) :
    Idle ((assess doc (some width)).run catalog).1.diagnostics ∧
      ∀ diagnostic ∈ ((assess doc (some width)).run catalog).1.diagnostics,
        diagnostic.kind ≠ .layout := by
  obtain ⟨outline, -, -, assessed⟩ := assess_run doc catalog
  obtain ⟨found, -⟩ := assessed (some width)
  have layout : layoutFindings doc (some width) = [] := by
    rw [layoutFindings, filter_nonzero nonzero]
    exact laid
  rw [found, layout, List.append_nil]
  constructor
  · have all : Idle (doc.structuralDiagnostics ++
        ((inspect doc).run catalog).1.flatMap (Case.findings (schemaWidth (some width))) ++
        outline.flatMap checkSwitches) := by
      refine List.forall_mem_append.mpr ⟨List.forall_mem_append.mpr ⟨?_, ?_⟩, ?_⟩
      · exact idle_structuralDiagnostics closed
      · intro diagnostic member
        obtain ⟨case, inside, found⟩ := List.mem_flatMap.mp member
        exact Case.idle_findings (complete case inside) _ diagnostic found
      · exact idle_checkSwitches outline
    exact fun diagnostic member => all diagnostic (List.mem_mergeSort.mp member)
  · intro diagnostic member
    rcases List.mem_append.mp (List.mem_mergeSort.mp member) with inner | switch
    · rcases List.mem_append.mp inner with structural | schema
      · rcases doc.kind_of_mem_structuralDiagnostics structural with kind | ⟨kind, -⟩
        · simp [kind]
        · simp [kind]
      · obtain ⟨case, -, found⟩ := List.mem_flatMap.mp schema
        simp [Case.kind_of_mem_findings found]
    · obtain ⟨top, -, found⟩ := List.mem_flatMap.mp switch
      simp [kind_of_mem_checkSwitches found]

/-- Fixing a document whose blocks are closed gives each of them the parameters that it lacks, and
lays out the rows. -/
theorem fix_supplies (lexable : catalog.Every Param.Lexable) (text path : Text)
    (closed : ClosureFree (Document.ofText text path).structuralDiagnostics)
    (nonzero : width ≠ 0) :
    ∃ fixed, ((fix (.ofText text path) (some width)).run catalog).1 = .ok fixed ∧
      ClosureFree (Document.ofText fixed path).structuralDiagnostics ∧
      (Document.ofText fixed path).outline.map Top.ofBlock =
        (Document.ofText text path).outline.map (Top.supplied (supplyOf
          (Document.ofText text path).rows ((inspect (.ofText text path)).run catalog).1)) ∧
      (Document.ofText fixed path).layoutDiagnostics width = [] := by
  let doc := Document.ofText text path
  let cases := ((inspect doc).run catalog).1
  let change := written fun row => (startingIn row cases).flatMap (Case.insertions width)
  obtain ⟨inserted, result⟩ := fix_eq text path (some width) catalog
  simp only [funext (insertionsOf_assess closed nonzero catalog), filter_nonzero nonzero]
    at inserted result
  refine ⟨_, result, ?_⟩
  have free : ∀ row ∈ doc.rows, '\n' ∉ row := fun _ member => not_mem_of_mem_splitOn member
  have filled : ∀ (row : Nat) line, doc.rows[row]? = some line →
      Filled width line (change row line) (supplyOf doc.rows cases row) :=
    fun row line here => (located_inspect doc catalog).filled
      (yields_inspect doc catalog lexable).1 width here
  have supplies : Supplies doc.rows change (supplyOf doc.rows cases) := by
    refine ⟨fun row line here => inserted.space_prefix here, fun row line here _ => ?_,
      fun row line here some => (filled row line here).opens some⟩
    exact (filled row line here).readings_eq (free line (List.mem_of_getElem? here))
  have rows : (Document.ofText (joinWith ['\n'] (tidy (some width) change 0 0 false doc.rows))
        path).rows =
      (tidy (some width) change 0 0 false doc.rows).flatMap (splitOn '\n') :=
    splitOn_joinWith_flatMap (tidy_ne_nil _ _ _ _ (splitOn_ne_nil '\n' text))
  obtain ⟨clean, blocks⟩ := supplies.read free closed (some width)
  have whole : doc.rows.drop 0 = doc.rows := rfl
  have laid := (foundFrom_tidy free (fun row line depth here content =>
    (filled row line here).stands (free line (List.mem_of_getElem? here)) content depth)
    whole 0 0).1
  rw [← rows] at clean blocks laid
  exact ⟨clean, blocks, laid⟩

/-- Fixing a document whose blocks are closed leaves a text that stands where it should and lacks no
parameters, and that fixing leaves alone.  This holds for the schema as it was before, and as it is
after fixing or any questions that are asked later. -/
theorem fix_converges (lexable : catalog.Every Param.Lexable) (text path : Text)
    (closed : ClosureFree (Document.ofText text path).structuralDiagnostics)
    (nonzero : width ≠ 0) :
    ∃ fixed, ((fix (.ofText text path) (some width)).run catalog).1 = .ok fixed ∧
      ∀ later, later = catalog ∨ ((fix (.ofText text path) (some width)).run catalog).2 ≤ later →
        (∀ diagnostic ∈ ((assess (.ofText fixed path) (some width)).run later).1.diagnostics,
          diagnostic.kind ≠ .layout ∧ ∀ names, diagnostic.problem ≠ .missingParameters names) ∧
        ((fix (.ofText fixed path) (some width)).run later).1 = .ok fixed := by
  obtain ⟨fixed, result, clean, blocks, laid⟩ := fix_supplies lexable text path closed nonzero
  refine ⟨fixed, result, fun later after => ?_⟩
  have last : ((fix (.ofText text path) (some width)).run catalog).2 =
      ((inspect (.ofText text path)).run catalog).2 := by
    obtain ⟨outline, -, -, assessed⟩ := assess_run (.ofText text path) catalog
    exact (assessed (some width)).2
  rw [last] at after
  obtain ⟨idle, kinds⟩ := idle_assess clean (missing_inspect lexable blocks after) laid nonzero
  refine ⟨fun diagnostic member => ⟨kinds diagnostic member, (idle diagnostic member).2⟩, ?_⟩
  calc
    ((fix (.ofText fixed path) (some width)).run later).1 =
        (Document.ofText fixed path).text.correct
          ((assess (.ofText fixed path) (some width)).run later).1.diagnostics := rfl
    _ = .ok fixed := by
      rw [Document.text_ofText, Text.correct, idle.edits]
      simp [applyAll, lastFirst, pure, Except.pure]

end Fixed

def sparse : Text :=
  " [A] # note\ny = 2\n[]".toList

def sparseSchema : Catalog where
  loaded := some {
    nodes := [{
      name := "/A".toList
      parameters := [
        { name := ['x'], required := true, default := some ['1'] },
        { name := ['y'], required := true }] }] }

theorem sparse_converges :
    ∃ fixed, ((fix (.anonymous sparse) (some 2)).run sparseSchema).1 = .ok fixed ∧
      fixed = "[A]\n  x = 1 # note\n  y = 2\n[]".toList ∧
      ((fix (.anonymous fixed) (some 2)).run
        ((fix (.anonymous sparse) (some 2)).run sparseSchema).2).1 = .ok fixed := by
  have lexable : sparseSchema.Every Param.Lexable := by
    rintro loaded ⟨⟩
    refine ⟨fun node member => ?_, fun entry member => nomatch member⟩
    obtain rfl := List.mem_singleton.mp member
    refine .intro ?_ fun child member => nomatch member
    intro param inside
    rcases List.mem_cons.mp inside with rfl | last
    · exact ⟨by decide, by decide, by decide⟩
    · obtain rfl := List.mem_singleton.mp last
      exact ⟨by decide, by decide, by decide⟩
  have closed : ClosureFree (Document.anonymous sparse).structuralDiagnostics := by
    rw [show (Document.anonymous sparse).structuralDiagnostics = [] by decide +kernel]
    simp [ClosureFree]
  obtain ⟨fixed, result, converged⟩ :=
    fix_converges lexable sparse Document.unnamed closed (show (2 : Int) ≠ 0 by decide)
  refine ⟨fixed, result, ?_, (converged _ (.inr (le_refl _))).2⟩
  have written : ((fix (.anonymous sparse) (some 2)).run sparseSchema).1 =
      .ok "[A]\n  x = 1 # note\n  y = 2\n[]".toList := by cbv
  exact Except.ok.inj (result.symm.trans written)

end Analysis

end InputDeck
