import InputDeck.Proofs.Analysis.Spans
import InputDeck.Proofs.Line.Words

/-!
The names that a switch gives to sub-blocks, and where they are reported.  A name is looked up among
the words of the value that have columns.  One with a quotation mark is not among them, and is
reported at the start of the row; any other is reported where it stands.
-/

namespace InputDeck

open Text

theorem Placed.range_of_mem_words {doc : Document} {row : Nat} {line name : Text} {value : Placed}
    (here : doc.rows[row]? = some line)
    (reads : (Line.read line).content = .parameter name (some value)) {run : Text × Nat}
    (member : run ∈ value.words) :
    value.column ≤ run.2 ∧
      doc.range ⟨row, run.2⟩ ⟨row, run.2 + run.1.length⟩ = .ok run.1 := by
  have stands := standsAt_of_mem_words (Line.standsAt_value_of_parameter reads) member
  obtain ⟨before, after, rfl, start⟩ := stands
  have read := Document.range_append here
  rw [List.length_append, start] at read
  exact ⟨column_le_of_mem_runs _ value.column value.text member, read⟩

namespace Analysis

open Outline Schema

structure Reports (diagnostic : Diagnostic) (block : Block) (item : Parameter) (value : Placed)
    (name : Text) : Prop where
  problem : ∃ switch, diagnostic.problem = .unknownChild switch name ∧
    block.parameter? switch.parameter.toList = some item
  given : item.value = some value
  word : name ∈ unquotedWords value.text

structure Covers (doc : Document) (diagnostic : Diagnostic) (item : Parameter) (value : Placed)
    (name : Text) : Prop where
  row : diagnostic.start.row = item.start.row
  column : value.column ≤ diagnostic.start.column
  text : doc.range diagnostic.start diagnostic.stop = .ok name

/-- A finding reports a name of a switch: where it stands in the value if it has no quotation marks,
and otherwise where the parameter starts. -/
def ReportsName (doc : Document) (diagnostic : Diagnostic) : Prop :=
  ∃ path block item value name, Holds doc.outline path block ∧
    Reports diagnostic block item value name ∧
    (Covers doc diagnostic item value name ↔ QuoteFree name) ∧
    (¬ QuoteFree name → diagnostic.start = item.start)

theorem reportsName_of_mem_unknownChildren {doc : Document} {path : List Text} {block : Block}
    (holds : Holds doc.outline path block) {children : List Text} {switch : Switch}
    {diagnostic : Diagnostic} (member : diagnostic ∈ unknownChildren block children switch) :
    ReportsName doc diagnostic := by
  unfold unknownChildren at member
  split at member
  · cases member
  · next item value switched =>
      obtain ⟨own, given⟩ := mem_of_switchValue? switched
      obtain ⟨other, found, valued⟩ := Option.bind_eq_some_iff.mp switched
      obtain ⟨placed, -, same⟩ := Option.bind_eq_some_iff.mp valued
      obtain ⟨rfl, rfl⟩ := Prod.mk.inj (Option.some.inj same)
      obtain ⟨row, line, title, read, here, reads, rfl, -⟩ := doc.stands_of_holds holds other own
      obtain rfl : read = some placed := given
      obtain ⟨name, inside, rfl⟩ := List.mem_map.mp member
      have word := (List.mem_filter.mp inside).1
      obtain ⟨tight, behind⟩ := Line.value_of_parameter reads
      have looked := exists_lookup_words_iff tight word
      refine ⟨path, block, _, placed, name, holds, ⟨⟨switch, rfl, found⟩, rfl, word⟩, ?_⟩
      cases lookup : placed.words.lookup name with
      | none =>
          have marked : ¬ QuoteFree name := by
            rw [← looked, lookup]
            nofun
          refine ⟨⟨fun covers => ?_, fun free => absurd free marked⟩, fun _ => rfl⟩
          have right : (placed.column : Int) ≤ (Line.read line).indent := covers.column
          omega
      | some column =>
          have free : QuoteFree name := looked.mp ⟨column, lookup⟩
          obtain ⟨right, text⟩ :=
            Placed.range_of_mem_words here reads (Table.mem_of_lookup lookup)
          exact ⟨iff_of_true ⟨rfl, Int.ofNat_le.mpr right, text⟩ free,
            fun marked => absurd free marked⟩

theorem reportsName_of_mem_checkSwitches {doc : Document} {diagnostic : Diagnostic}
    (member : diagnostic ∈ doc.outline.flatMap checkSwitches) : ReportsName doc diagnostic := by
  have both : ∀ {path block}, Holds doc.outline path block → ∀ {children : List Text},
      diagnostic ∈ unknownChildren block children .active ++
        unknownChildren block children .inactive → ReportsName doc diagnostic := by
    intro path block holds children inside
    exact (List.mem_append.mp inside).elim (reportsName_of_mem_unknownChildren holds)
      (reportsName_of_mem_unknownChildren holds)
  obtain ⟨top, inside, found⟩ := List.mem_flatMap.mp member
  rcases List.mem_append.mp found with own | below
  · exact both (.top inside) own
  · obtain ⟨child, among, named⟩ := List.mem_flatMap.mp below
    exact both (.sub inside among) named

section Assess

variable {doc : Document} {width : Option Int} {catalog : Catalog} {diagnostic : Diagnostic}

theorem mem_assess_iff :
    diagnostic ∈ ((assess doc width).run catalog).1.diagnostics ↔
      diagnostic ∈ doc.structuralDiagnostics ∨
      (∃ case ∈ ((inspect doc).run catalog).1, diagnostic ∈ case.findings (schemaWidth width)) ∨
      diagnostic ∈ doc.outline.flatMap checkSwitches ∨ diagnostic ∈ layoutFindings doc width := by
  obtain ⟨outline, same, -, assessed⟩ := assess_run doc catalog
  rw [(assessed width).1, Diagnostic.sortByStart, List.mem_mergeSort, checkSwitches_congr same,
    List.mem_append, List.mem_append, List.mem_append, List.mem_flatMap, or_assoc, or_assoc]

theorem mem_checkSwitches_of_reference
    (member : diagnostic ∈ ((assess doc width).run catalog).1.diagnostics)
    (reference : diagnostic.kind = .reference) :
    diagnostic ∈ doc.outline.flatMap checkSwitches := by
  rcases mem_assess_iff.mp member with structural | ⟨case, -, found⟩ | switches | layout
  · rcases Document.kind_of_mem_structuralDiagnostics structural with kind | ⟨kind, -⟩
    · cases kind.symm.trans reference
    · cases kind.symm.trans reference
  · cases (Case.kind_of_mem_findings found).symm.trans reference
  · exact switches
  · cases (kind_of_mem_layoutFindings layout).symm.trans reference

end Assess

/-- The words of a value with and without their columns are the same just if no quotation mark
stands within the value; and a name that a switch gives in vain is reported where it stands in the
value just if it has no quotation mark. -/
theorem value_words_agree_iff (text path : Text) (width : Option Int) (catalog : Catalog) :
    (∀ row ∈ (Document.ofText text path).rows, ∀ name value,
      (Line.read row).content = .parameter name (some value) →
      ((Line.read row).valueWords.map Prod.fst = unquotedWords value.text ↔
        QuoteFree (unquote value.text))) ∧
    ∀ diagnostic ∈ ((assess (Document.ofText text path) width).run catalog).1.diagnostics,
      diagnostic.kind = .reference → ReportsName (Document.ofText text path) diagnostic := by
  refine ⟨fun row _ name value reads => ?_, fun diagnostic member reference => ?_⟩
  · have words : (Line.read row).valueWords = value.words := by
      simp [Line.valueWords, reads, Content.value?]
    rw [words]
    exact map_fst_words_eq_iff (Line.value_of_parameter reads).1
  · exact reportsName_of_mem_checkSwitches (mem_checkSwitches_of_reference member reference)

def markedName : Text :=
  joinWith ['\n'] (["[A]", "    active = \"a'b\"", "[]"].map String.toList)

theorem markedName_misplaced :
    unquotedWords "\"a'b\"".toList = ["a'b".toList] ∧
      (Line.read "    active = \"a'b\"".toList).valueWords = [(['a'], 14), (['b'], 16)] ∧
      ¬ QuoteFree (unquote "\"a'b\"".toList) ∧
      ∃ diagnostic ∈ ((assess (Document.anonymous markedName) none).run {}).1.diagnostics,
        diagnostic.problem = .unknownChild .active "a'b".toList ∧
        diagnostic.start = ⟨1, 4⟩ ∧ ReportsName (Document.anonymous markedName) diagnostic := by
  obtain ⟨same, reported⟩ := value_words_agree_iff markedName Document.unnamed none {}
  have member : "    active = \"a'b\"".toList ∈ (Document.anonymous markedName).rows := by
    decide +kernel
  have reads : (Line.read "    active = \"a'b\"".toList).content =
      .parameter "active".toList (some ⟨"\"a'b\"".toList, 13⟩) := by decide +kernel
  have differ : (Line.read "    active = \"a'b\"".toList).valueWords.map Prod.fst ≠
      unquotedWords "\"a'b\"".toList := by decide +kernel
  have marked := mt (same _ member _ _ reads).mpr differ
  obtain ⟨diagnostic, listed, problem, start⟩ :
      ∃ diagnostic ∈ (Document.anonymous markedName).outline.flatMap checkSwitches,
        diagnostic.problem = .unknownChild .active "a'b".toList ∧ diagnostic.start = ⟨1, 4⟩ := by
    decide +kernel
  have found :
      diagnostic ∈ ((assess (Document.anonymous markedName) none).run {}).1.diagnostics :=
    mem_assess_iff.mpr (.inr (.inr (.inl listed)))
  exact ⟨by decide +kernel, by decide +kernel, marked, diagnostic, found, problem, start,
    reported diagnostic found (by rw [Diagnostic.kind, problem]; rfl)⟩

end Analysis

end InputDeck
