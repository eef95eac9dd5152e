import InputDeck.Proofs.Diagnostic.Kinds
import InputDeck.Proofs.Diagnostic.Sorting
import InputDeck.Service
import Mathlib

/-!
Kinds of diagnostics that are switched off.  The diagnostics that are left are those that were shown
before, but for the rows of missing parameters: these are indented by the tab width only while the
layout is checked.
-/

namespace InputDeck

namespace Analysis

open Outline Schema

def missingFinding (width : Int) (level : Level) (lacking : List Param) (start stop : Position) :
    Diagnostic where
  problem := .missingParameters (lacking.map (·.name))
  start := start
  stop := stop
  correction := some (.insertAfter (lacking.flatMap (defaultRow width level)))

/-- Findings that are the same, except that rows of missing parameters are indented for two tab
widths. -/
inductive Indented (first second : Int) : Diagnostic → Diagnostic → Prop
  | same {diagnostic : Diagnostic}
      (complete : ∀ names, diagnostic.problem ≠ .missingParameters names) :
      Indented first second diagnostic diagnostic
  | missing (level : Level) {lacking : List Param} (some : lacking ≠ []) (start stop : Position) :
      Indented first second (missingFinding first level lacking start stop)
        (missingFinding second level lacking start stop)

namespace Indented

variable {first second : Int} {one other : Diagnostic}

theorem start_eq (indented : Indented first second one other) : one.start = other.start := by
  cases indented <;> rfl

theorem kind_eq (indented : Indented first second one other) : one.kind = other.kind := by
  cases indented <;> rfl

theorem eq_of_width_eq (indented : Indented first second one other) (width : first = second) :
    one = other := by
  cases indented with
  | same => rfl
  | missing level some start stop => rw [width]

theorem eq_of_complete (indented : Indented first second one other)
    (complete : ∀ names, one.problem ≠ .missingParameters names) : one = other := by
  cases indented with
  | same => rfl
  | missing level some start stop => exact absurd rfl (complete _)

theorem list_eq_of_complete {found others : List Diagnostic}
    (indented : List.Forall₂ (Indented first second) found others)
    (complete : ∀ diagnostic ∈ found, ∀ names, diagnostic.problem ≠ .missingParameters names) :
    found = others := by
  induction indented with
  | nil => rfl
  | cons head _ ih =>
      rw [List.forall_mem_cons] at complete
      rw [head.eq_of_complete complete.1, ih complete.2]

theorem refl_of_complete {found : List Diagnostic}
    (complete : ∀ diagnostic ∈ found, ∀ names, diagnostic.problem ≠ .missingParameters names) :
    List.Forall₂ (Indented first second) found found :=
  List.forall₂_same.mpr fun diagnostic member => .same (complete diagnostic member)

end Indented

theorem complete_of_kind {diagnostic : Diagnostic} (kind : diagnostic.kind ≠ .schema)
    (names : List Text) : diagnostic.problem ≠ .missingParameters names := by
  intro missing
  rw [Diagnostic.kind, missing] at kind
  exact kind rfl

theorem length_flatMap_defaultRow (width : Int) (level : Level) (lacking : List Param) :
    (lacking.flatMap (defaultRow width level)).length =
      lacking.length * (level.depth * width).toNat +
        (lacking.map fun param => param.name.length + 4 + (param.default.getD []).length).sum := by
  induction lacking with
  | nil => simp
  | cons param rest ih =>
      have row : (defaultRow width level param).length =
          (level.depth * width).toNat +
            (param.name.length + 4 + (param.default.getD []).length) := by
        simp [defaultRow, Layout.indentation]
        omega
      rw [List.flatMap_cons, List.length_append, ih, row, List.length_cons, List.map_cons,
        List.sum_cons, Nat.add_mul]
      omega

theorem Indented.eq_four {width : Int} {one other : Diagnostic}
    (indented : Indented 4 width one other) (same : one = other) {names : List Text}
    (missing : one.problem = .missingParameters names) : width = 4 := by
  cases indented with
  | same complete => exact absurd missing (complete names)
  | @missing level lacking some start stop =>
      have rows : lacking.flatMap (defaultRow 4 level) =
          lacking.flatMap (defaultRow width level) := by
        have corrections := congrArg Diagnostic.correction same
        exact Correction.insertAfter.inj (Option.some.inj corrections)
      have lengths := congrArg List.length rows
      rw [length_flatMap_defaultRow, length_flatMap_defaultRow, Nat.add_right_cancel_iff] at lengths
      have indents := Nat.eq_of_mul_eq_mul_left (List.length_pos_iff.mpr some) lengths
      cases level <;> simp only [Level.depth] at indents <;> omega

theorem Case.indented_findings (first second : Int) (case : Case) :
    List.Forall₂ (Indented first second) (case.findings first) (case.findings second) := by
  have unknown : ∀ (types : List Node), ∀ diagnostic ∈ unknownType case.block types,
      ∀ names, diagnostic.problem ≠ .missingParameters names := by
    intro types diagnostic member names
    unfold unknownType at member
    split at member
    · split at member
      · cases member
      · rw [List.mem_singleton.mp member]
        simp
    · cases member
  unfold Case.findings
  cases case.reply with
  | none => exact Indented.refl_of_complete (by simp)
  | some reply =>
      dsimp only
      split
      · apply List.rel_append
        · apply Indented.refl_of_complete
          intro diagnostic member names
          obtain ⟨item, -, found⟩ := List.mem_filterMap.mp member
          unfold unknownParameter at found
          split at found
          · cases found
          · rw [← Option.some.inj found]
            simp
        · unfold missingParameters
          split
          · exact .nil
          · next lacking some => exact .cons (.missing case.level some _ _) .nil
      · exact Indented.refl_of_complete (unknown reply.types)

end Analysis

theorem Database.consult_fst {α : Type} (load : Load) (inquiry : Schema.Inquiry α) (db : Database) :
    (db.consult load inquiry).1 =
      (inquiry.run { loaded := (db.fetch load false).1.toOption }).1 := by
  unfold consult
  dsimp only
  split
  next answer catalog found =>
    have answered : (inquiry.run { loaded := (db.fetch load false).1.toOption }).1 = answer :=
      congrArg Prod.fst found
    rw [answered]
    split <;> rfl

namespace Service

open Analysis

/-- The diagnostics of a document when some kinds are enabled, the service being otherwise the
same. -/
def shown (service : Service) (files : FileTree) (doc : Document) (kinds : List Kind) :
    List Diagnostic :=
  (diagnostics { service with settings := { service.settings with enabled := kinds } } files doc).1

def checkedWidth (settings : Settings) (kinds : List Kind) : Option Int :=
  if kinds.contains .layout then some settings.tabWidth else none

theorem shown_eq (service : Service) (files : FileTree) (doc : Document) :
    ∃ catalog, ∀ kinds, service.shown files doc kinds =
      (((assess doc (checkedWidth service.settings kinds)).run catalog).1.diagnostics).filter
        (fun diagnostic => kinds.contains diagnostic.kind) := by
  refine ⟨{ loaded := (service.database.fetch files.load false).1.toOption }, fun kinds => ?_⟩
  unfold shown diagnostics consult
  dsimp only
  rw [Database.consult_fst, enabledDiagnostics, checkedWidth]
  have filtered : ∀ (inquiry : Schema.Inquiry Assessment) (catalog : Schema.Catalog),
      (StateT.run (do
        let assessment ← inquiry
        return assessment.diagnostics.filter (fun diagnostic => kinds.contains diagnostic.kind))
        catalog).1 =
      ((inquiry.run catalog).1.diagnostics).filter
        (fun diagnostic => kinds.contains diagnostic.kind) := fun _ _ => rfl
  rw [filtered]

theorem schemaWidth_unchecked {settings : Settings} {kinds : List Kind}
    (unchecked : .layout ∉ kinds) : schemaWidth (checkedWidth settings kinds) = 4 := by
  rw [checkedWidth, if_neg (by simpa using unchecked)]
  rfl

theorem schemaWidth_checked {settings : Settings} {kinds : List Kind} (checked : .layout ∈ kinds) :
    schemaWidth (checkedWidth settings kinds) =
      if settings.tabWidth = 0 then 4 else settings.tabWidth := by
  rw [checkedWidth, if_pos (by simpa using checked), schemaWidth]
  by_cases zero : settings.tabWidth = 0 <;> simp [Option.filter, zero]

theorem schemaWidth_eq_iff (settings : Settings) {fewer more : List Kind}
    (included : fewer ⊆ more) :
    schemaWidth (checkedWidth settings fewer) = schemaWidth (checkedWidth settings more) ↔
      .layout ∈ fewer ∨ .layout ∉ more ∨ settings.tabWidth = 0 ∨ settings.tabWidth = 4 := by
  by_cases laid : .layout ∈ fewer
  · rw [schemaWidth_checked laid, schemaWidth_checked (included laid)]
    simp [laid]
  · by_cases newly : .layout ∈ more
    · rw [schemaWidth_unchecked laid, schemaWidth_checked newly]
      by_cases zero : settings.tabWidth = 0
      · simp [zero]
      · simp [laid, newly, zero, eq_comm]
    · rw [schemaWidth_unchecked laid, schemaWidth_unchecked newly]
      simp [newly]

theorem indented_assess (doc : Document) (catalog : Schema.Catalog) (settings : Settings)
    {fewer more : List Kind} (included : fewer ⊆ more) :
    List.Forall₂
      (Indented (schemaWidth (checkedWidth settings fewer))
        (schemaWidth (checkedWidth settings more)))
      ((((assess doc (checkedWidth settings fewer)).run catalog).1.diagnostics).filter
        (fun diagnostic => fewer.contains diagnostic.kind))
      ((((assess doc (checkedWidth settings more)).run catalog).1.diagnostics).filter
        (fun diagnostic => fewer.contains diagnostic.kind)) := by
  obtain ⟨outline, -, -, checked⟩ := assess_run doc catalog
  rw [(checked _).1, (checked _).1, Diagnostic.filter_sortByStart, Diagnostic.filter_sortByStart]
  apply Diagnostic.forall₂_sortByStart fun _ _ => Indented.start_eq
  have reenabled : (layoutFindings doc (checkedWidth settings fewer)).filter
        (fun diagnostic => fewer.contains diagnostic.kind) =
      (layoutFindings doc (checkedWidth settings more)).filter
        (fun diagnostic => fewer.contains diagnostic.kind) := by
    by_cases laid : Kind.layout ∈ fewer
    · rw [checkedWidth, checkedWidth, if_pos (List.contains_iff_mem.mpr laid),
        if_pos (List.contains_iff_mem.mpr (included laid))]
    · have none : ∀ width, (layoutFindings doc width).filter
          (fun diagnostic => fewer.contains diagnostic.kind) = [] := by
        intro width
        rw [List.filter_eq_nil_iff]
        intro diagnostic member enabled
        rw [kind_of_mem_layoutFindings member] at enabled
        exact laid (List.contains_iff_mem.mp enabled)
      rw [none, none]
  have kept : ∀ {found others : List Diagnostic},
      List.Forall₂ (Indented (schemaWidth (checkedWidth settings fewer))
        (schemaWidth (checkedWidth settings more))) found others →
      List.Forall₂ (Indented (schemaWidth (checkedWidth settings fewer))
        (schemaWidth (checkedWidth settings more)))
        (found.filter (fun diagnostic => fewer.contains diagnostic.kind))
        (others.filter (fun diagnostic => fewer.contains diagnostic.kind)) := by
    intro found others related
    refine List.rel_filter (fun one other indented => ?_) related
    dsimp only
    rw [indented.kind_eq]
  simp only [List.filter_append]
  refine List.rel_append (List.rel_append (List.rel_append ?_ ?_) ?_) ?_
  · refine kept (Indented.refl_of_complete fun diagnostic member => complete_of_kind ?_)
    rcases doc.kind_of_mem_structuralDiagnostics member with kind | ⟨kind, -⟩ <;> simp [kind]
  · refine kept (List.rel_flatMap (List.forall₂_same.mpr fun case _ => (rfl : case = case)) ?_)
    rintro case _ rfl
    exact case.indented_findings _ _
  · refine kept (Indented.refl_of_complete fun diagnostic member => complete_of_kind ?_)
    obtain ⟨top, -, inside⟩ := List.mem_flatMap.mp member
    simp [kind_of_mem_checkSwitches inside]
  · rw [← reenabled]
    refine kept (Indented.refl_of_complete fun diagnostic member => complete_of_kind ?_)
    simp [kind_of_mem_layoutFindings member]

/-- With fewer kinds enabled, what is left is what was shown of these kinds, but rows of missing
parameters may be indented otherwise.  They are, unless the layout is checked both times or neither
time, or a level has four columns anyhow. -/
theorem shown_of_fewer_kinds (service : Service) (files : FileTree) (doc : Document)
    {fewer more : List Kind} (included : fewer ⊆ more) :
    List.Forall₂
      (Indented (schemaWidth (checkedWidth service.settings fewer))
        (schemaWidth (checkedWidth service.settings more)))
      (service.shown files doc fewer)
      ((service.shown files doc more).filter (fun diagnostic => fewer.contains diagnostic.kind)) ∧
    (service.shown files doc fewer =
        (service.shown files doc more).filter (fun diagnostic => fewer.contains diagnostic.kind) ↔
      .layout ∈ fewer ∨ .layout ∉ more ∨
        service.settings.tabWidth = 0 ∨ service.settings.tabWidth = 4 ∨
        ∀ diagnostic ∈ service.shown files doc fewer,
          ∀ names, diagnostic.problem ≠ .missingParameters names) := by
  obtain ⟨catalog, shown⟩ := service.shown_eq files doc
  have related : List.Forall₂
      (Indented (schemaWidth (checkedWidth service.settings fewer))
        (schemaWidth (checkedWidth service.settings more)))
      (service.shown files doc fewer)
      ((service.shown files doc more).filter
        (fun diagnostic => fewer.contains diagnostic.kind)) := by
    have again : ∀ found : List Diagnostic,
        (found.filter fun diagnostic => more.contains diagnostic.kind).filter
          (fun diagnostic => fewer.contains diagnostic.kind) =
        found.filter fun diagnostic => fewer.contains diagnostic.kind := by
      intro found
      rw [List.filter_filter]
      apply List.filter_congr
      intro diagnostic _
      rw [Bool.and_eq_left_iff_imp]
      intro enabled
      exact List.contains_iff_mem.mpr (included (List.contains_iff_mem.mp enabled))
    rw [shown, shown, again]
    exact indented_assess doc catalog service.settings included
  refine ⟨related, ?_⟩
  have widths := schemaWidth_eq_iff service.settings included
  constructor
  · intro same
    by_cases width : schemaWidth (checkedWidth service.settings fewer) =
        schemaWidth (checkedWidth service.settings more)
    · rcases widths.mp width with laid | unlaid | zero | four
      · exact .inl laid
      · exact .inr (.inl unlaid)
      · exact .inr (.inr (.inl zero))
      · exact .inr (.inr (.inr (.inl four)))
    · have unchecked : .layout ∉ fewer := fun laid => width (widths.mpr (.inl laid))
      rw [← same, schemaWidth_unchecked unchecked, List.forall₂_same] at related
      rw [schemaWidth_unchecked unchecked] at width
      refine .inr (.inr (.inr (.inr fun diagnostic member names missing => width ?_)))
      exact ((related diagnostic member).eq_four rfl missing).symm
  · intro unchanged
    by_cases width : schemaWidth (checkedWidth service.settings fewer) =
        schemaWidth (checkedWidth service.settings more)
    · exact List.forall₂_eq_eq_eq ▸ related.imp fun _ _ indented => indented.eq_of_width_eq width
    · rw [widths] at width
      rcases unchanged with laid | unlaid | zero | four | complete
      · exact absurd (.inl laid) width
      · exact absurd (.inr (.inl unlaid)) width
      · exact absurd (.inr (.inr (.inl zero))) width
      · exact absurd (.inr (.inr (.inr four))) width
      · exact Indented.list_eq_of_complete related complete

def oneRequired : Schema.Loaded where
  nodes := [{ name := "/A".toList, parameters := [{ name := ['x'], required := true }] }]

def narrow : Service where
  settings := { tabWidth := 2 }
  database := { system := { cell := { data := some oneRequired } } }

theorem narrow_without_layout :
    [.schema] ⊆ Kind.all ∧
    (narrow.shown ⟨[], []⟩ (.anonymous "[A]\n[]".toList) [.schema]).map (·.correction) =
      [some (.insertAfter "\n    x = ".toList)] ∧
    narrow.shown ⟨[], []⟩ (.anonymous "[A]\n[]".toList) [.schema] ≠
      (narrow.shown ⟨[], []⟩ (.anonymous "[A]\n[]".toList) Kind.all).filter
        (fun diagnostic => [Kind.schema].contains diagnostic.kind) := by
  have included : [.schema] ⊆ Kind.all := by decide
  have found : narrow.shown ⟨[], []⟩ (.anonymous "[A]\n[]".toList) [.schema] =
      [{ problem := .missingParameters [['x']], start := ⟨0, 0⟩, stop := ⟨0, 3⟩,
         correction := some (.insertAfter "\n    x = ".toList) }] := by
    cbv
  refine ⟨included, by rw [found]; rfl, fun same => ?_⟩
  have unchanged := (shown_of_fewer_kinds narrow ⟨[], []⟩ _ included).2.mp same
  rw [found] at unchanged
  simp [narrow, Kind.all] at unchanged

end Service

end InputDeck
