import InputDeck.Proofs.Analysis.Missing
import InputDeck.Proofs.Diagnostic.Bounds
import InputDeck.Proofs.Diagnostic.Sorting
import InputDeck.Proofs.Outline.Placement

/-!
All that a check says about places.  Its findings come in the order of the document and each is
about a span of it, whatever is wrong with the document; and every block is where its tag is.
-/

namespace InputDeck

open Text

namespace Outline

/-! The header of a block. -/

section Header

variable {rows : List Text} {level : Level} {block : Block}

theorem OpensAt.exists_header (opens : OpensAt rows level block.name block.start) :
    ∃ (row : Nat) (before after : Text),
      rows[row]? = some (before ++ level.tag block.name ++ after) ∧
        block.start = ⟨row, before.length⟩ ∧
        block.headerEnd level = ⟨row, (before ++ level.tag block.name).length⟩ := by
  obtain ⟨row, text, here, opened, start⟩ := opens
  obtain ⟨after, behind⟩ := ((Line.content_eq_opening_iff _ _ _).mp opened).2
  refine ⟨row, text.takeWhile isBlank, after, ?_, start, ?_⟩
  · rw [List.append_assoc, behind, ← eq_takeWhile_append_trimStart, here]
  · rw [Block.headerEnd_eq level start, List.length_append]

theorem OpensAt.spans_header (opens : OpensAt rows level block.name block.start)
    (problem : Problem) (correction : Option Correction) :
    Diagnostic.Spans rows ⟨problem, block.start, block.headerEnd level, correction⟩ := by
  obtain ⟨row, before, after, here, start, stop⟩ := opens.exists_header
  rw [start, stop]
  exact Diagnostic.spans_of_row here (by simp) (by simp) problem correction

end Header

/-! Outlines that differ in descriptions only. -/

section Undescribed

variable {outline : List TopBlock} {path : List Text} {block : Block}

theorem Holds.undescribed (holds : Holds outline path block) :
    Holds (outline.map TopBlock.undescribed) path block.undescribed := by
  cases holds with
  | @top top member => exact @Holds.top _ top.undescribed (List.mem_map_of_mem member)
  | @sub top block member inside =>
      exact @Holds.sub _ top.undescribed block.undescribed (List.mem_map_of_mem member)
        (List.mem_map_of_mem inside)

theorem Holds.exists_described (holds : Holds (outline.map TopBlock.undescribed) path block) :
    ∃ original, Holds outline path original ∧ original.undescribed = block := by
  cases holds with
  | top member =>
      obtain ⟨original, inside, rfl⟩ := List.mem_map.mp member
      exact ⟨original.toBlock, @Holds.top outline original inside, rfl⟩
  | sub member child =>
      obtain ⟨top, inside, rfl⟩ := List.mem_map.mp member
      obtain ⟨original, below, rfl⟩ := List.mem_map.mp child
      exact ⟨original, @Holds.sub outline top original inside below, rfl⟩

end Undescribed

end Outline

namespace Analysis

open Outline Schema

/-! What is found about the parameters of a block. -/

section Parameters

variable {rows : List Text} {depth : Nat} {item : Parameter}

theorem spans_unknownParameter (stands : item.Stands rows depth) {known : List Param}
    {diagnostic : Diagnostic} (found : unknownParameter known item = some diagnostic) :
    diagnostic.Spans rows := by
  obtain ⟨row, text, name, value, here, reads, rfl, -⟩ := stands
  have named := Line.name_le_of_parameter reads
  unfold unknownParameter at found
  split at found
  · cases found
  · obtain rfl := Option.some.inj found
    exact Diagnostic.spans_of_row here (Nat.le_add_right _ name.length)
      (Nat.le_trans named (Line.stop_read_le text)) _ _

theorem spans_unknownType {block : Block}
    (stands : ∀ item ∈ block.parameters, item.Stands rows depth) (types : List Node) :
    ∀ diagnostic ∈ unknownType block types, diagnostic.Spans rows := by
  intro diagnostic member
  unfold unknownType at member
  split at member
  · next item type found _ =>
      obtain ⟨row, text, name, value, here, reads, rfl, -⟩ :=
        stands item (List.mem_of_find?_eq_some found)
      have within := Line.stop_read_le text
      split at member
      · cases member
      · obtain rfl := List.mem_singleton.mp member
        cases value with
        | none =>
            exact Diagnostic.spans_of_row here (Line.indent_read_le_stop text) within _ _
        | some value =>
            have ended := Line.value_stop_of_parameter reads
            exact Diagnostic.spans_of_row here (Nat.le.intro ended) within _ _
  · cases member

theorem mem_of_switchValue? {block : Block} {switch : Switch} {value : Placed}
    (switched : switchValue? block switch = some (item, value)) :
    item ∈ block.parameters ∧ item.value = some value := by
  obtain ⟨other, found, valued⟩ := Option.bind_eq_some_iff.mp switched
  obtain ⟨placed, given, same⟩ := Option.bind_eq_some_iff.mp valued
  obtain ⟨rfl, rfl⟩ := Prod.mk.inj (Option.some.inj same)
  exact ⟨List.mem_of_find?_eq_some found, given⟩

/-- A name that a switch gives is reported where its word is or, if no word is that name, at the
start of the row.  The value is long enough for it either way. -/
theorem spans_unknownChildren {block : Block}
    (stands : ∀ item ∈ block.parameters, item.Stands rows depth) (children : List Text)
    (switch : Switch) :
    ∀ diagnostic ∈ unknownChildren block children switch, diagnostic.Spans rows := by
  intro diagnostic member
  unfold unknownChildren at member
  split at member
  · cases member
  · next item value switched =>
      obtain ⟨own, given⟩ := mem_of_switchValue? switched
      obtain ⟨row, text, name, read, here, reads, rfl, -⟩ := stands item own
      obtain rfl : read = some value := given
      obtain ⟨word, inside, rfl⟩ := List.mem_map.mp member
      have within := Line.stop_read_le text
      have ended := Line.value_stop_of_parameter reads
      cases placed : value.words.lookup word with
      | none =>
          have after := (Line.value_of_parameter reads).2
          have short := length_le_of_mem_unquotedWords (List.mem_filter.mp inside).1
          exact Diagnostic.spans_of_row here (Nat.le_add_right _ word.length) (by omega) _ _
      | some column =>
          obtain ⟨before, later, whole, -⟩ := List.lookup_eq_some_iff.mp placed
          have bound : column + word.length ≤ value.column + value.text.length :=
            stop_le_of_mem_runs (whole ▸ List.mem_append_right before List.mem_cons_self)
          exact Diagnostic.spans_of_row here (Nat.le_add_right _ word.length) (by omega) _ _

end Parameters

/-! Switches do not depend on descriptions. -/

theorem switchValue?_undescribed (block : Block) (switch : Switch) :
    switchValue? block.undescribed switch =
      (switchValue? block switch).map fun given => (given.1.undescribed, given.2) := by
  have found : block.undescribed.parameter? switch.parameter.toList =
      (block.parameter? switch.parameter.toList).map Parameter.undescribed :=
    List.find?_map ..
  unfold switchValue?
  rw [found]
  cases block.parameter? switch.parameter.toList with
  | none => rfl
  | some item => cases given : item.value <;> simp [Parameter.undescribed, given]

theorem unknownChildren_undescribed (block : Block) (children : List Text) (switch : Switch) :
    unknownChildren block.undescribed children switch = unknownChildren block children switch := by
  unfold unknownChildren
  rw [switchValue?_undescribed]
  cases switchValue? block switch <;> rfl

theorem checkSwitches_undescribed (top : TopBlock) :
    checkSwitches top.undescribed = checkSwitches top := by
  have names : (top.children.map Block.undescribed).map (·.name) = top.children.map (·.name) := by
    simp [Block.undescribed]
  have own : top.undescribed.toBlock = top.toBlock.undescribed := rfl
  have below : top.undescribed.children = top.children.map Block.undescribed := rfl
  simp only [checkSwitches, own, below, names, List.flatMap_map, unknownChildren_undescribed]

theorem checkSwitches_congr {outline other : List TopBlock}
    (same : outline.map TopBlock.undescribed = other.map TopBlock.undescribed) :
    outline.flatMap checkSwitches = other.flatMap checkSwitches := by
  have erased : ∀ tops : List TopBlock,
      (tops.map TopBlock.undescribed).flatMap checkSwitches = tops.flatMap checkSwitches := by
    intro tops
    simp only [List.flatMap_map, checkSwitches_undescribed]
  rw [← erased, same, erased]

theorem spans_checkSwitches {doc : Document} :
    ∀ diagnostic ∈ doc.outline.flatMap checkSwitches, diagnostic.Spans doc.rows := by
  have both : ∀ path block, Holds doc.outline path block → ∀ children : List Text,
      ∀ diagnostic ∈ unknownChildren block children .active ++
        unknownChildren block children .inactive, diagnostic.Spans doc.rows := by
    intro path block holds children
    have stands := doc.stands_of_holds holds
    exact List.forall_mem_append.mpr ⟨spans_unknownChildren stands children .active,
      spans_unknownChildren stands children .inactive⟩
  intro diagnostic member
  obtain ⟨top, inside, found⟩ := List.mem_flatMap.mp member
  rcases List.mem_append.mp found with own | below
  · exact both _ _ (.top inside) _ diagnostic own
  · obtain ⟨child, among, named⟩ := List.mem_flatMap.mp below
    exact both _ _ (.sub inside among) _ diagnostic named

/-! What the schema says is wrong with a block. -/

theorem holds_of_mem_subjects {tops : List TopBlock} {subject : Subject}
    (member : subject ∈ tops.flatMap subjects) : Holds tops subject.path subject.block := by
  obtain ⟨top, inside, below⟩ := List.mem_flatMap.mp member
  unfold subjects at below
  split at below
  · cases below
  · rcases List.mem_cons.mp below with rfl | child
    · exact .top inside
    · obtain ⟨block, among, rfl⟩ := List.mem_map.mp child
      exact .sub inside among

theorem Case.spans_findings {doc : Document} {case : Case}
    (asked : case.toSubject ∈ doc.outline.flatMap subjects) (width : Int) :
    ∀ diagnostic ∈ case.findings width, diagnostic.Spans doc.rows := by
  have opens : OpensAt doc.rows case.level case.block.name case.block.start :=
    opensAt_of_mem_subjects asked
  have stands : ∀ item ∈ case.block.parameters, item.Stands doc.rows case.path.length :=
    doc.stands_of_holds (holds_of_mem_subjects asked)
  intro diagnostic member
  unfold findings at member
  split at member
  · obtain rfl := List.mem_singleton.mp member
    exact opens.spans_header _ _
  · next reply _ =>
      dsimp only at member
      split at member
      · rcases List.mem_append.mp member with unknown | missing
        · obtain ⟨item, inside, found⟩ := List.mem_filterMap.mp unknown
          exact spans_unknownParameter (stands item inside) found
        · rw [missingParameters_eq, lacks] at missing
          split at missing
          · cases missing
          · obtain rfl := List.mem_singleton.mp missing
            exact opens.spans_header _ _
      · exact spans_unknownType stands reply.types diagnostic member

/-! The check of a document. -/

section Assess

variable (doc : Document) (width : Option Int) (catalog : Catalog)

theorem spans_assess :
    ∀ diagnostic ∈ ((assess doc width).run catalog).1.diagnostics, diagnostic.Spans doc.rows := by
  obtain ⟨outline, same, -, assessed⟩ := assess_run doc catalog
  intro diagnostic member
  rw [(assessed width).1, Diagnostic.sortByStart, List.mem_mergeSort, checkSwitches_congr same]
    at member
  rcases List.mem_append.mp member with earlier | layout
  · rcases List.mem_append.mp earlier with earlier | switches
    · rcases List.mem_append.mp earlier with structural | schema
      · exact doc.spans_structuralDiagnostics diagnostic structural
      · obtain ⟨case, inside, found⟩ := List.mem_flatMap.mp schema
        exact Case.spans_findings (subject_of_mem_inspect inside) _ diagnostic found
    · exact spans_checkSwitches diagnostic switches
  · unfold layoutFindings at layout
    split at layout
    · exact doc.spans_layoutDiagnostics _ diagnostic layout
    · cases layout

theorem exists_holds_of_assess {path : List Text} {block : Block}
    (holds : Holds ((assess doc width).run catalog).1.outline path block) :
    ∃ original, Holds doc.outline path original ∧ original.name = block.name ∧
      original.start = block.start := by
  obtain ⟨outline, same, assessed, -⟩ := assess_run doc catalog
  have kept : Holds outline path block := by
    rw [assessed] at holds
    cases holds with
    | top member =>
        obtain ⟨top, inside, rfl⟩ := List.mem_map.mp member
        exact @Holds.top outline top inside
    | @sub _ block member child =>
        obtain ⟨top, inside, rfl⟩ := List.mem_map.mp member
        exact @Holds.sub outline top block inside child
  have erased := kept.undescribed
  rw [same] at erased
  obtain ⟨original, held, equal⟩ := erased.exists_described
  have name : original.undescribed.name = block.undescribed.name := by rw [equal]
  have start : original.undescribed.start = block.undescribed.start := by rw [equal]
  exact ⟨original, held, name, start⟩

theorem range_header {level : Level} {block : Block}
    (opens : OpensAt doc.rows level block.name block.start) :
    doc.range block.start (block.headerEnd level) = .ok (level.tag block.name) := by
  obtain ⟨row, before, after, here, start, stop⟩ := opens.exists_header
  rw [start, stop]
  exact Document.range_append here

theorem header_assess {path : List Text} {block : Block}
    (holds : Holds ((assess doc width).run catalog).1.outline path block) (named : path ≠ [[]]) :
    ∃ level : Level, level.depth = path.length ∧
      doc.range block.start (block.headerEnd level) = .ok (level.tag block.name) := by
  obtain ⟨original, held, name, start⟩ := exists_holds_of_assess doc width catalog holds
  obtain ⟨level, depth, opens⟩ := doc.opensAt_of_holds held named
  rw [name, start] at opens
  exact ⟨level, depth, range_header doc opens⟩

end Assess

/-- The places of a check: they lie in the document, so that the corrections of its findings, of
all or of some, can be applied, and the blocks stand where their tags are. -/
structure Assessment.Anchored (doc : Document) (assessment : Assessment) : Prop where
  spans : ∀ diagnostic ∈ assessment.diagnostics, diagnostic.Spans doc.rows
  ordered : assessment.diagnostics.Pairwise (fun one other => one.start ≤ other.start)
  correctable : ∀ found ⊆ assessment.diagnostics, ∃ fixed, doc.text.correct found = .ok fixed
  /-- The block that is supplied for a sub-block outside every block has no name and no tag. -/
  top : ∀ top ∈ assessment.outline, top.name ≠ [] →
    doc.range top.start (top.headerEnd .top) = .ok ("[".toList ++ top.name ++ "]".toList)
  sub : ∀ top ∈ assessment.outline, ∀ child ∈ top.children,
    doc.range child.start (child.headerEnd .sub) = .ok ("[./".toList ++ child.name ++ "]".toList)

/-- Every check of a text says where things are in it. -/
theorem assess_anchored (text path : Text) (width : Option Int) (catalog : Catalog) :
    ((assess (Document.ofText text path) width).run catalog).1.Anchored
      (Document.ofText text path) := by
  let doc := Document.ofText text path
  have spans := spans_assess doc width catalog
  obtain ⟨outline, -, -, assessed⟩ := assess_run doc catalog
  refine ⟨spans, ?_, fun found chosen => ?_, fun top member named => ?_,
    fun top member child inside => ?_⟩
  · rw [(assessed width).1]
    exact Diagnostic.pairwise_sortByStart _
  · rw [Document.text_ofText]
    exact Text.exists_correct fun diagnostic inside => spans diagnostic (chosen inside)
  · obtain ⟨level, depth, header⟩ := header_assess doc width catalog (.top member) (by simpa)
    cases level with
    | top => exact header
    | sub => cases depth
  · obtain ⟨level, depth, header⟩ :=
      header_assess doc width catalog (.sub member inside) (by simp)
    cases level with
    | top => cases depth
    | sub => exact header

end Analysis

end InputDeck
