import InputDeck.Proofs.Analysis.Defaults
import InputDeck.Proofs.Analysis.Repair
import InputDeck.Proofs.Analysis.Replies
import InputDeck.Proofs.Diagnostic.Kinds
import InputDeck.Proofs.Outline.Spans

/-!
The parameters that blocks lack.  In a document whose blocks are closed, they are all that is
inserted, and each block gets its own below its opening tag.
-/

namespace InputDeck

open Text

/-! Blocks start in rows of their own. -/

namespace Outline

theorem OpensAt.unique {rows : List Text} {first second : Level} {name other : Text}
    {start next : Position} (one : OpensAt rows first name start)
    (two : OpensAt rows second other next) (same : start.row = next.row) :
    first = second ∧ start = next := by
  obtain ⟨row, text, here, opened, rfl⟩ := one
  obtain ⟨again, line, there, reopened, rfl⟩ := two
  obtain rfl : row = again := Int.ofNat.inj same
  obtain rfl : text = line := Option.some.inj (here.symm.trans there)
  refine ⟨?_, rfl⟩
  have contents := opened.symm.trans reopened
  cases first <;> cases second <;> first | rfl | cases contents

end Outline

namespace Analysis

open Outline Schema Edit Layout Deck

theorem opensAt_of_mem_subjects {doc : Document} {subject : Subject}
    (member : subject ∈ doc.outline.flatMap subjects) :
    OpensAt doc.rows subject.level subject.block.name subject.block.start := by
  obtain ⟨top, inside, below⟩ := List.mem_flatMap.mp member
  have rooted := (rooted_read doc.rows).closed top inside
  unfold subjects at below
  cases named : top.name.isEmpty with
  | true =>
      rw [named] at below
      cases below
  | false =>
      rw [named] at below
      rcases List.mem_cons.mp below with rfl | child
      · rcases rooted.block with unnamed | opens
        · rw [unnamed] at named
          cases named
        · exact opens
      · obtain ⟨block, inChildren, rfl⟩ := List.mem_map.mp child
        exact rooted.children block inChildren

private theorem span_of_mem_subjects {top : TopBlock} (spanned : top.Spanned) {subject : Subject}
    (member : subject ∈ subjects top) :
    top.start ≤ subject.block.start ∧ subject.block.start ≤ top.stop := by
  unfold subjects at member
  split at member
  · cases member
  · rcases List.mem_cons.mp member with rfl | child
    · exact ⟨Position.le_refl _, spanned.ordered⟩
    · obtain ⟨block, inside, rfl⟩ := List.mem_map.mp child
      obtain ⟨own, after, before⟩ := spanned.children block inside
      exact ⟨after, Position.le_trans own.ordered before⟩

theorem starts_apart (doc : Document) :
    (doc.outline.flatMap subjects).Pairwise
      (fun one other => one.block.start.row ≠ other.block.start.row) := by
  obtain ⟨last, spanned⟩ := spanned_read doc.rows
  have ordered : (doc.outline.flatMap subjects).Pairwise (fun one other =>
      one.level ≠ other.level ∨ one.block.start < other.block.start) := by
    rw [List.pairwise_flatMap]
    constructor
    · intro top member
      have own := (spanned.closed top member).1
      unfold subjects
      split
      · exact .nil
      · refine List.pairwise_cons.mpr ⟨?_, List.pairwise_map.mpr ?_⟩
        · intro subject child
          obtain ⟨block, -, rfl⟩ := List.mem_map.mp child
          exact .inl (by simp)
        · refine own.siblings.imp_of_mem fun {previous next} before _ apart => .inr ?_
          have started := (own.children previous before).1.ordered
          simp only [Position.le_def, Position.lt_def] at started apart ⊢
          omega
    · refine spanned.siblings.imp_of_mem fun {previous next} before after apart one first other
        second => .inr ?_
      have ended := (span_of_mem_subjects (spanned.closed previous before).1 first).2
      have started := (span_of_mem_subjects (spanned.closed next after).1 second).1
      simp only [Position.le_def, Position.lt_def] at ended started apart ⊢
      omega
  refine ordered.imp_of_mem fun {one other} first second apart same => ?_
  obtain ⟨level, start⟩ :=
    (opensAt_of_mem_subjects first).unique (opensAt_of_mem_subjects second) same
  rcases apart with different | before
  · exact different level
  · rw [start, Position.lt_def] at before
    omega

/-! What a block lacks. -/

/-- The parameters that a block has to set but does not.  Nothing is known to be missing from a
block of an unknown type. -/
def Case.missing (case : Case) : List Param :=
  match case.reply with
  | none => []
  | some reply =>
      if (unknownType case.block reply.types).isEmpty then
        reply.known.filter
          (fun param => param.required && (case.block.parameter? param.name).isNone)
      else
        []

def Case.insertions (width : Int) (case : Case) : List Edit :=
  if case.missing.isEmpty then []
  else [⟨case.block.start, case.block.headerEnd case.level,
    .insertAfter (case.missing.flatMap (defaultRow width case.level))⟩]

def Idle (found : List Diagnostic) : Prop :=
  ∀ diagnostic ∈ found, diagnostic.correction = none ∧
    ∀ names, diagnostic.problem ≠ .missingParameters names

theorem Idle.edits {found : List Diagnostic} (idle : Idle found) :
    found.filterMap Diagnostic.edit? = [] := by
  rw [List.filterMap_eq_nil_iff]
  intro diagnostic member
  rw [Diagnostic.edit?, (idle diagnostic member).1]
  rfl

theorem idle_of_kind {found : List Diagnostic}
    (kinds : ∀ diagnostic ∈ found, diagnostic.kind ≠ .schema ∧ diagnostic.correction = none) :
    Idle found := by
  intro diagnostic member
  refine ⟨(kinds diagnostic member).2, fun names missing => (kinds diagnostic member).1 ?_⟩
  rw [Diagnostic.kind, missing]
  rfl

theorem idle_structuralDiagnostics {doc : Document}
    (closed : ClosureFree doc.structuralDiagnostics) : Idle doc.structuralDiagnostics := by
  apply idle_of_kind
  intro diagnostic member
  rcases doc.kind_of_mem_structuralDiagnostics member with closure | ⟨duplication, uncorrected⟩
  · exact absurd closure (closed diagnostic member)
  · rw [duplication]
    exact ⟨by decide, uncorrected⟩

theorem idle_checkSwitches (outline : List TopBlock) : Idle (outline.flatMap checkSwitches) := by
  apply idle_of_kind
  intro diagnostic member
  obtain ⟨top, -, found⟩ := List.mem_flatMap.mp member
  rw [kind_of_mem_checkSwitches found]
  exact ⟨by decide, uncorrected_checkSwitches top diagnostic found⟩

def lacks (width : Int) (level : Level) (block : Block) (missing : List Param) : List Diagnostic :=
  if missing.isEmpty then []
  else [{
    problem := .missingParameters (missing.map (·.name)),
    start := block.start, stop := block.headerEnd level,
    correction := some (.insertAfter (missing.flatMap (defaultRow width level))) }]

theorem missingParameters_eq (width : Int) (level : Level) (block : Block) (known : List Param) :
    missingParameters width level block known = lacks width level block (known.filter
      fun param => param.required && (block.parameter? param.name).isNone) := by
  unfold missingParameters
  generalize known.filter (fun param =>
    param.required && (block.parameter? param.name).isNone) = missing
  cases missing <;> rfl

theorem Case.exists_findings (width : Int) (case : Case) :
    ∃ others, Idle others ∧
      case.findings width = others ++ lacks width case.level case.block case.missing := by
  cases given : case.reply with
  | none =>
      refine ⟨_, ?_, by simp only [findings, missing, given]; exact (List.append_nil _).symm⟩
      simp [Idle]
  | some reply =>
      cases known : (unknownType case.block reply.types).isEmpty with
      | true =>
          refine ⟨case.block.parameters.filterMap (unknownParameter reply.known), ?_, ?_⟩
          · intro diagnostic member
            obtain ⟨item, -, found⟩ := List.mem_filterMap.mp member
            refine ⟨uncorrected_unknownParameter found, fun names missing => ?_⟩
            unfold unknownParameter at found
            split at found
            · cases found
            · rw [← Option.some.inj found] at missing
              cases missing
          · simp only [findings, missing, given, known, if_true, missingParameters_eq]
      | false =>
          refine ⟨unknownType case.block reply.types, ?_, ?_⟩
          · intro diagnostic member
            refine ⟨uncorrected_unknownType _ _ diagnostic member, fun names missing => ?_⟩
            unfold unknownType at member
            split at member
            · split at member
              · cases member
              · rw [List.mem_singleton.mp member] at missing
                cases missing
            · cases member
          · simp only [findings, missing, given, known, Bool.false_eq_true, if_false]
            exact (List.append_nil _).symm

theorem Case.edits_findings (width : Int) (case : Case) :
    (case.findings width).filterMap Diagnostic.edit? = case.insertions width := by
  obtain ⟨others, idle, split⟩ := case.exists_findings width
  rw [split, List.filterMap_append, idle.edits, List.nil_append, insertions, lacks]
  cases case.missing <;> rfl

theorem Case.idle_findings {case : Case} (complete : case.missing = []) (width : Int) :
    Idle (case.findings width) := by
  obtain ⟨others, idle, split⟩ := case.exists_findings width
  rw [split, complete]
  exact (List.append_nil others).symm ▸ idle

/-! Where the parameters go. -/

structure Located (rows : List Text) (cases : List Case) : Prop where
  opens : ∀ case ∈ cases, OpensAt rows case.level case.block.name case.block.start
  apart : cases.Pairwise (fun one other => one.block.start.row ≠ other.block.start.row)

theorem subjects_inspect (doc : Document) (catalog : Catalog) :
    ((inspect doc).run catalog).1 = [] ∨
      ((inspect doc).run catalog).1.map Case.toSubject = doc.outline.flatMap subjects := by
  have run : (inspect doc).run catalog =
      (if (Inquiry.isLoaded.run catalog).1 then survey (doc.outline.flatMap subjects)
        else return []).run (Inquiry.isLoaded.run catalog).2 := rfl
  rw [run]
  split
  · exact .inr (subjects_survey (doc.outline.flatMap subjects) (Inquiry.isLoaded.run catalog).2)
  · exact .inl rfl

theorem subject_of_mem_inspect {doc : Document} {catalog : Catalog} {case : Case}
    (member : case ∈ ((inspect doc).run catalog).1) :
    case.toSubject ∈ doc.outline.flatMap subjects := by
  rcases subjects_inspect doc catalog with none | same
  · rw [none] at member
    cases member
  · rw [← same]
    exact List.mem_map_of_mem member

theorem located_inspect (doc : Document) (catalog : Catalog) :
    Located doc.rows ((inspect doc).run catalog).1 where
  opens case member := opensAt_of_mem_subjects (subject_of_mem_inspect member)
  apart := by
    rcases subjects_inspect doc catalog with none | same
    · rw [none]
      exact .nil
    · have apart := starts_apart doc
      rw [← same, List.pairwise_map] at apart
      exact apart

abbrev startingIn (row : Int) (cases : List Case) : List Case :=
  cases.filter (fun case => case.block.start.row == row)

theorem Located.startingIn_of_mem {rows : List Text} {cases : List Case}
    (located : Located rows cases) {case : Case} (member : case ∈ cases) :
    startingIn case.block.start.row cases = [case] := by
  have apart := located.apart
  clear located
  induction cases with
  | nil => cases member
  | cons first rest ih =>
      rw [List.pairwise_cons] at apart
      rcases List.mem_cons.mp member with rfl | later
      · rw [startingIn, List.filter_cons_of_pos (by simp), List.cons.injEq, List.filter_eq_nil_iff]
        refine ⟨rfl, fun other inside => ?_⟩
        simpa using (apart.1 other inside).symm
      · have other : first.block.start.row ≠ case.block.start.row := apart.1 case later
        rw [startingIn, List.filter_cons_of_neg (by simpa using other)]
        exact ih later apart.2

theorem Located.startingIn_cases {rows : List Text} {cases : List Case}
    (located : Located rows cases) (row : Int) :
    startingIn row cases = [] ∨
      ∃ case ∈ cases, case.block.start.row = row ∧ startingIn row cases = [case] := by
  cases started : startingIn row cases with
  | nil => exact .inl rfl
  | cons case rest =>
      have inside : case ∈ startingIn row cases := started ▸ List.mem_cons_self
      obtain ⟨member, here⟩ := List.mem_filter.mp inside
      rw [beq_iff_eq] at here
      refine .inr ⟨case, member, here, ?_⟩
      rw [← started, ← here]
      exact located.startingIn_of_mem member

theorem Case.start_of_mem_insertions {width : Int} {case : Case} {edit : Edit}
    (member : edit ∈ case.insertions width) :
    edit.start = case.block.start ∧ isInsertion edit = true := by
  unfold insertions at member
  split at member
  · cases member
  · rw [List.mem_singleton.mp member]
    exact ⟨rfl, rfl⟩

theorem ofRow_insertions (width : Int) (cases : List Case) (row : Nat) :
    ofRow row (cases.flatMap (Case.insertions width)) =
      (startingIn row cases).flatMap (Case.insertions width) := by
  induction cases with
  | nil => rfl
  | cons case rest ih =>
      simp only [ofRow, startingIn] at ih ⊢
      rw [List.flatMap_cons, List.filter_append, ih]
      by_cases here : case.block.start.row = row
      · have all : (case.insertions width).filter (fun edit => edit.start.row == (row : Int)) =
            case.insertions width := by
          rw [List.filter_eq_self]
          intro edit member
          simp [(Case.start_of_mem_insertions member).1, here]
        rw [all, List.filter_cons_of_pos (by simp [here]), List.flatMap_cons]
      · have none : (case.insertions width).filter (fun edit => edit.start.row == (row : Int)) =
            [] := by
          rw [List.filter_eq_nil_iff]
          intro edit member
          simp [(Case.start_of_mem_insertions member).1, here]
        rw [none, List.filter_cons_of_neg (by simp [here]), List.nil_append]

theorem filter_nonzero {width : Int} (nonzero : width ≠ 0) :
    (some width).filter (· != 0) = some width := by
  simp [Option.filter, nonzero]

/-- In a document whose blocks are closed, the insertions of a row are those for the block that
starts there. -/
theorem insertionsOf_assess {doc : Document} (closed : ClosureFree doc.structuralDiagnostics)
    {width : Int} (nonzero : width ≠ 0) (catalog : Catalog) (row : Nat) :
    insertionsOf (((assess doc (some width)).run catalog).1.diagnostics.filterMap
        Diagnostic.edit?) row =
      (startingIn row ((inspect doc).run catalog).1).flatMap (Case.insertions width) := by
  obtain ⟨outline, -, -, assessed⟩ := assess_run doc catalog
  obtain ⟨found, -⟩ := assessed (some width)
  let cases := ((inspect doc).run catalog).1
  let all := doc.structuralDiagnostics ++
    cases.flatMap (Case.findings (schemaWidth (some width))) ++
    outline.flatMap checkSwitches ++ layoutFindings doc (some width)
  have same : schemaWidth (some width) = width := by
    rw [schemaWidth, filter_nonzero nonzero, Option.getD_some]
  have structural : Idle doc.structuralDiagnostics := idle_structuralDiagnostics closed
  have switches : Idle (outline.flatMap checkSwitches) := idle_checkSwitches outline
  have schema : (cases.flatMap (Case.findings width)).filterMap Diagnostic.edit? =
      cases.flatMap (Case.insertions width) := by
    rw [List.filterMap_flatMap]
    exact List.flatMap_congr fun case _ => case.edits_findings width
  have layout : (ofRow row ((layoutFindings doc (some width)).filterMap
      Diagnostic.edit?)).filter isInsertion = [] := by
    rw [List.filter_eq_nil_iff]
    intro edit member
    simp [isInsertion_layoutFindings (List.mem_filter.mp member).1]
  have inRow : (ofRow row (all.filterMap Diagnostic.edit?)).filter isInsertion =
      (startingIn row cases).flatMap (Case.insertions width) := by
    simp only [all, same, List.filterMap_append, structural.edits, switches.edits, schema,
      List.nil_append, List.append_nil]
    rw [ofRow, List.filter_append, List.filter_append, ← ofRow, ← ofRow, layout, List.append_nil,
      ofRow_insertions, List.filter_eq_self]
    intro edit member
    obtain ⟨case, -, inserted⟩ := List.mem_flatMap.mp member
    exact (Case.start_of_mem_insertions inserted).2
  have perm : (insertionsOf (((assess doc (some width)).run catalog).1.diagnostics.filterMap
      Diagnostic.edit?) row).Perm ((startingIn row cases).flatMap (Case.insertions width)) := by
    rw [found, ← inRow]
    exact (((List.mergeSort_perm _ _).trans
      ((List.mergeSort_perm all _).filterMap _)).filter _).filter _
  rcases (located_inspect doc catalog).startingIn_cases row with none | ⟨case, -, -, one⟩
  · rw [none] at perm ⊢
    exact List.perm_nil.mp perm
  · rw [one, List.flatMap_singleton, Case.insertions] at perm ⊢
    revert perm
    split
    · exact List.perm_nil.mp
    · exact List.perm_singleton.mp

end Analysis

end InputDeck
