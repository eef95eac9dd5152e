import InputDeck.Analysis.Assessment
import InputDeck.Proofs.Outline.Rooted
import InputDeck.Proofs.Schema.Every

/-!
What the full check of a document writes.  Apart from the layout, every correction writes rows into
one row of the document: closing tags, or the parameters that a block lacks.
-/

namespace InputDeck

open Text

/-- A parameter whose name and default stay in one row that no tag starts. -/
structure Schema.Param.Plain (param : Schema.Param) : Prop where
  unbracketed : '[' ∉ param.name
  nameFree : '\n' ∉ param.name
  defaultFree : '\n' ∉ param.default.getD []

namespace Analysis

open Outline Schema

def defaultLine (width : Int) (level : Level) (param : Param) : Text :=
  Layout.indentation width level.depth ++ param.name ++ " = ".toList ++ param.default.getD []

theorem flatMap_defaultRow (width : Int) (level : Level) {missing : List Param}
    (some : missing ≠ []) :
    missing.flatMap (defaultRow width level) =
      '\n' :: joinWith ['\n'] (missing.map (defaultLine width level)) := by
  cases missing with
  | nil => exact absurd rfl some
  | cons param rest =>
      rw [List.map_cons, joinWith_cons, List.flatMap_cons, List.flatMap_map]
      rfl

theorem guards_defaultLines (width : Int) (level : Level) {missing : List Param}
    (some : missing ≠ []) (plain : ∀ param ∈ missing, param.Plain) :
    Guards (joinWith ['\n'] (missing.map (defaultLine width level))) := by
  have free : ∀ line ∈ missing.map (defaultLine width level), '\n' ∉ line := by
    intro line member
    obtain ⟨param, inside, rfl⟩ := List.mem_map.mp member
    have own := plain param inside
    simp [defaultLine, Layout.indentation, own.nameFree, own.defaultFree]
  intro row member rest
  rw [splitOn_joinWith (by simpa using some) free] at member
  obtain ⟨param, inside, rfl⟩ := List.mem_map.mp member
  have unbracketed : '[' ∉ Layout.indentation width level.depth ++ param.name ++ [' '] := by
    simp [Layout.indentation, (plain param inside).unbracketed]
  have shut := Line.not_opens_equals unbracketed (' ' :: param.default.getD [] ++ rest)
  simpa [defaultLine] using shut

theorem mem_of_mem_firstOfName {param : Param} {params : List Param}
    (member : param ∈ firstOfName params) : param ∈ params := by
  induction params with
  | nil => exact member
  | cons first rest ih =>
      rcases List.mem_cons.mp member with rfl | later
      · exact List.mem_cons_self
      · exact List.mem_cons_of_mem first (ih (List.mem_filter.mp later).1)

section Checks

variable {plain : Prop} {rows : List Text}

theorem insertsRows_missingParameters (width : Int) {level : Level} {block : Block}
    {known : List Param} (opens : OpensAt rows level block.name block.start)
    (knownPlain : plain → ∀ param ∈ known, param.Plain) :
    ∀ diagnostic ∈ missingParameters width level block known,
      diagnostic.InsertsRows plain rows := by
  intro diagnostic member
  unfold missingParameters at member
  split at member
  · cases member
  · next missing some =>
      have inside : ∀ param ∈ known.filter (fun param =>
          param.required && (block.parameter? param.name).isNone), param ∈ known :=
        fun param member => (List.mem_filter.mp member).1
      rw [List.mem_singleton.mp member]
      intro edit corrected
      obtain rfl := Option.some.inj corrected
      obtain ⟨row, text, here, opened, start⟩ := opens
      refine ⟨row, text, here, Line.isBlank_of_opening opened, ?_⟩
      rw [flatMap_defaultRow width level some]
      have guards := fun holds => guards_defaultLines width level some
        fun param member => knownPlain holds param (inside param member)
      rw [Block.headerEnd_eq level start, start]
      exact .header level block.name _ opened guards

theorem uncorrected_unknownType (block : Block) (types : List Node) :
    ∀ diagnostic ∈ unknownType block types, diagnostic.correction = none := by
  intro diagnostic member
  unfold unknownType at member
  split at member
  · split at member
    · cases member
    · rw [List.mem_singleton.mp member]
  · cases member

theorem uncorrected_unknownParameter {known : List Param} {item : Parameter}
    {diagnostic : Diagnostic} (found : unknownParameter known item = some diagnostic) :
    diagnostic.correction = none := by
  unfold unknownParameter at found
  split at found
  · cases found
  · rw [← Option.some.inj found]

/-- A check keeps the schema plain, and finds what writes rows into the document. -/
abbrev Checks {α : Type} (plain : Prop) (rows : List Text)
    (check : Inquiry (α × List Diagnostic)) : Prop :=
  Yields (fun catalog => plain → catalog.Every Param.Plain) check
    (fun answer => ∀ diagnostic ∈ answer.2, diagnostic.InsertsRows plain rows)

theorem checkParameters_checks (width : Int) {level : Level} (path : List Text) {block : Block}
    (opens : OpensAt rows level block.name block.start) :
    Checks plain rows (checkParameters width level path block) := by
  have known : ∀ types : List Node, Checks plain rows (do
      let wrongType := unknownType block types
      let known := firstOfName (← Inquiry.parameters path block.type?)
      let described := { block with parameters := block.parameters.map (describe known) }
      if wrongType.isEmpty then
        return (described,
          block.parameters.filterMap (unknownParameter known) ++
            missingParameters width level block known)
      else
        return (described, wrongType)) := by
    intro types
    refine Yields.bind ((Inquiry.yields_parameters path block.type?).assuming plain)
      fun params paramsPlain => ?_
    dsimp only
    split
    · refine Yields.pure fun diagnostic member => ?_
      rcases List.mem_append.mp member with unknown | missing
      · obtain ⟨item, -, found⟩ := List.mem_filterMap.mp unknown
        exact Diagnostic.insertsRows_of_uncorrected plain rows (uncorrected_unknownParameter found)
      · exact insertsRows_missingParameters width opens
          (fun holds param member => paramsPlain holds param (mem_of_mem_firstOfName member))
          diagnostic missing
    · exact Yields.pure fun diagnostic member =>
        Diagnostic.insertsRows_of_uncorrected plain rows
          (uncorrected_unknownType block types diagnostic member)
  unfold checkParameters
  dsimp only
  split
  · exact known []
  · exact known []
  · exact Yields.bind ((Inquiry.yields_types path).assuming plain) fun types _ => known types

theorem checkBlock_checks (width : Int) {level : Level} (path : List Text) {block : Block}
    (opens : OpensAt rows level block.name block.start) :
    Checks plain rows (checkBlock width level path block) := by
  refine Yields.bind ((Inquiry.yields_find? path).assuming plain) fun found _ => ?_
  cases found with
  | none =>
      refine Yields.pure fun diagnostic member => ?_
      rw [List.mem_singleton.mp member]
      exact Diagnostic.insertsRows_of_uncorrected plain rows rfl
  | some found => exact checkParameters_checks width path opens

theorem checkChildren_checks (width : Int) (parent : Text) {children : List Block}
    (opens : ∀ child ∈ children, OpensAt rows .sub child.name child.start) :
    Checks plain rows (checkChildren width parent children) := by
  induction children with
  | nil => exact Yields.pure (by simp)
  | cons child rest ih =>
      refine Yields.bind (checkBlock_checks width _ (opens child List.mem_cons_self))
        fun first found => ?_
      refine Yields.bind (ih fun other member => opens other (List.mem_cons_of_mem child member))
        fun second others => Yields.pure (List.forall_mem_append.mpr ⟨found, others⟩)

theorem checkTop_checks (width : Int) {top : TopBlock} (rooted : top.Rooted rows) :
    Checks plain rows (checkTop width top) := by
  unfold checkTop
  cases name : top.name.isEmpty with
  | true => exact Yields.pure (by simp)
  | false =>
      have opens : OpensAt rows .top top.name top.start := by
        rcases rooted.block with unnamed | opens
        · rw [unnamed] at name
          cases name
        · exact opens
      refine Yields.bind (checkBlock_checks width [top.name] opens) fun first found => ?_
      refine Yields.bind (checkChildren_checks width top.name rooted.children)
        fun second others => Yields.pure (List.forall_mem_append.mpr ⟨found, others⟩)

theorem checkTops_checks (width : Int) {tops : List TopBlock}
    (rooted : ∀ top ∈ tops, top.Rooted rows) : Checks plain rows (checkTops width tops) := by
  induction tops with
  | nil => exact Yields.pure (by simp)
  | cons top rest ih =>
      refine Yields.bind (checkTop_checks width (rooted top List.mem_cons_self))
        fun first found => ?_
      refine Yields.bind (ih fun other member => rooted other (List.mem_cons_of_mem top member))
        fun second others => Yields.pure (List.forall_mem_append.mpr ⟨found, others⟩)

theorem uncorrected_checkSwitches (top : TopBlock) :
    ∀ diagnostic ∈ checkSwitches top, diagnostic.correction = none := by
  have children : ∀ (block : Block) (names : List Text) (switch : Switch),
      ∀ diagnostic ∈ unknownChildren block names switch, diagnostic.correction = none := by
    intro block names switch diagnostic member
    unfold unknownChildren at member
    split at member
    · cases member
    · obtain ⟨name, -, rfl⟩ := List.mem_map.mp member
      rfl
  have both : ∀ (block : Block) (names : List Text),
      ∀ diagnostic ∈ unknownChildren block names .active ++ unknownChildren block names .inactive,
        diagnostic.correction = none :=
    fun block names => List.forall_mem_append.mpr
      ⟨children block names .active, children block names .inactive⟩
  intro diagnostic member
  rcases List.mem_append.mp member with own | below
  · exact both _ _ diagnostic own
  · obtain ⟨child, -, found⟩ := List.mem_flatMap.mp below
    exact both _ _ diagnostic found

def layoutFindings (doc : Document) (width : Option Int) : List Diagnostic :=
  match width.filter (· != 0) with
  | some width => doc.layoutDiagnostics width
  | none => []

theorem assess_checks (plain : Prop) (doc : Document) (width : Option Int) :
    Yields (fun catalog => plain → catalog.Every Param.Plain) (assess doc width)
      (fun assessment => ∃ found,
        (∀ diagnostic ∈ found, diagnostic.InsertsRows plain doc.rows) ∧
          assessment.diagnostics = Diagnostic.sortByStart (found ++ layoutFindings doc width)) := by
  have rooted := rooted_read doc.rows
  have reported : ∀ answer : List TopBlock × List Diagnostic,
      (∀ diagnostic ∈ answer.2, diagnostic.InsertsRows plain doc.rows) →
      ∃ found, (∀ diagnostic ∈ found, diagnostic.InsertsRows plain doc.rows) ∧
        Diagnostic.sortByStart (doc.structuralDiagnostics ++ answer.2 ++
          answer.1.flatMap checkSwitches ++ layoutFindings doc width) =
            Diagnostic.sortByStart (found ++ layoutFindings doc width) := by
    intro answer schema
    refine ⟨_, ?_, rfl⟩
    refine List.forall_mem_append.mpr ⟨List.forall_mem_append.mpr ⟨?_, schema⟩, ?_⟩
    · exact fun diagnostic member => (rooted.found diagnostic member).weaken plain
    · intro diagnostic member
      obtain ⟨top, -, found⟩ := List.mem_flatMap.mp member
      exact Diagnostic.insertsRows_of_uncorrected plain doc.rows
        (uncorrected_checkSwitches top diagnostic found)
  refine Yields.bind (Inquiry.yields_isLoaded.assuming plain) fun loaded _ => ?_
  cases loaded with
  | true =>
      exact Yields.bind (checkTops_checks _ rooted.closed) fun answer schema =>
        Yields.pure (reported answer schema)
  | false => exact Yields.pure (reported (doc.outline, []) (by simp))

end Checks

end Analysis

end InputDeck
