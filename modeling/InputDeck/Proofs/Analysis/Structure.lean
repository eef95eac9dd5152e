import InputDeck.Proofs.Analysis.Applied
import InputDeck.Proofs.Diagnostic.Kinds
import InputDeck.Proofs.Layout.Simulation
import InputDeck.Proofs.Outline.Ending
import InputDeck.Proofs.Outline.Mending

/-!
The corrections of the structure of a document.  Where each fault can be mended, and no two stand in
one row, the corrected rows are read without a fault into the blocks that the document was read
into.
-/

namespace InputDeck

open Text Edit

namespace Outline.State

theorem free_of_lacking {depth : Nat} {content : Content} {rows : List Text}
    (lacks : lackingAt depth content = some rows) : ∀ row ∈ rows, '\n' ∉ row := by
  unfold lackingAt at lacks
  split at lacks
  · cases lacks
    simp
  · unfold Tag.lacking at lacks
    split at lacks <;> cases lacks <;> decide

variable {rows : List Text} {row : Nat} {text : Text}

abbrev faults (rows : List Text) : List Diagnostic :=
  (run {} rows).closures ++ (run {} rows).unclosed

theorem faults_of_row (here : rows[row]? = some text) :
    ∃ news, (faults rows).filter (fun diagnostic => diagnostic.start.row == (row : Int)) =
        news ++ (run {} rows).unclosed.filter
          (fun diagnostic => diagnostic.start.row == (row : Int)) ∧
      Fault ⟨row, (Line.read text).indent⟩ ⟨row, (Line.read text).stop⟩
        (lackingAt (run {} (rows.take row)).depth (Line.read text).content) news := by
  obtain ⟨before, news, later, split, fault, inBefore, inLater⟩ := exists_closures_split here
  have none : ∀ found : List Diagnostic, (∀ diagnostic ∈ found, diagnostic.start.row ≠ row) →
      found.filter (fun diagnostic => diagnostic.start.row == (row : Int)) = [] := by
    intro found elsewhere
    rw [List.filter_eq_nil_iff]
    intro diagnostic member
    simpa using elsewhere diagnostic member
  have all : news.filter (fun diagnostic => diagnostic.start.row == (row : Int)) = news := by
    rw [List.filter_eq_self]
    intro diagnostic member
    simp [fault.start_of_mem diagnostic member]
  refine ⟨news, ?_, fault⟩
  rw [faults, split, List.filter_append, List.filter_append, List.filter_append,
    none before inBefore, none later inLater, all, List.nil_append, List.append_nil]

/-- Faults that can all be mended, no two of them in one row. -/
structure Mendable (rows : List Text) : Prop where
  corrected : ∀ diagnostic ∈ faults rows, diagnostic.correction ≠ none
  apart : (faults rows).Pairwise (fun one other => one.start.row ≠ other.start.row)

abbrev mendings (rows : List Text) (row : Nat) : List Edit :=
  ofRow row ((faults rows).filterMap Diagnostic.edit?)

theorem mended_row (mendable : Mendable rows) (here : rows[row]? = some text)
    (elsewhere : ∀ diagnostic ∈ (run {} rows).unclosed, diagnostic.start.row ≠ row)
    (free : '\n' ∉ text) (content : (Line.read text).content.isBlank = false) :
    ∃ lacking, lackingAt (run {} (rows.take row)).depth (Line.read text).content = some lacking ∧
      readings (Analysis.written (mendings rows) row text) =
        (lacking ++ [text]).map (fun row => (Line.read row).content.reading) := by
  obtain ⟨news, split, fault⟩ := faults_of_row here
  have none : (run {} rows).unclosed.filter
      (fun diagnostic => diagnostic.start.row == (row : Int)) = [] := by
    rw [List.filter_eq_nil_iff]
    intro diagnostic member
    simpa using elsewhere diagnostic member
  rw [none, List.append_nil] at split
  have edits : mendings rows row = news.filterMap Diagnostic.edit? := by
    rw [mendings, ofRow_corrections, split]
  have inFaults : ∀ diagnostic ∈ news, diagnostic ∈ faults rows := by
    intro diagnostic member
    rw [← split] at member
    exact (List.mem_filter.mp member).1
  rw [Analysis.written, edits]
  generalize lacks : lackingAt (run {} (rows.take row)).depth (Line.read text).content = lacking
    at fault
  cases fault with
  | fits => exact ⟨[], rfl, readings_of_free free⟩
  | stuck closure => exact absurd rfl (mendable.corrected _ (inFaults _ List.mem_cons_self))
  | @lacking problem closure lacking needed =>
      refine ⟨lacking, rfl, ?_⟩
      let space := text.takeWhile isBlank
      have blank : ∀ c ∈ space, isBlank c = true := isBlank_of_mem_takeWhile text
      have spaceFree : '\n' ∉ space := not_mem_takeWhile free
      have indent : (Line.read text).indent = space.length := Line.indent_read content
      have whole : text = space ++ trimStart text := eq_takeWhile_append_trimStart text
      have first : text.take space.length = space :=
        (List.prefix_iff_eq_take.mp (List.takeWhile_prefix _)).symm
      have written : ([missing problem ⟨row, (Line.read text).indent⟩ ⟨row, (Line.read text).stop⟩
            lacking].filterMap Diagnostic.edit?).foldl Edit.onRow text =
          space ++ (lacking.flatMap (· ++ ['\n']) ++ trimStart text) := by
        rw [indent, ← drop_length_takeWhile, ← List.append_assoc]
        have spliced := splice_insertBefore text (lacking.flatMap (· ++ ['\n'])) space.length
          (Line.read text).stop
        rw [first] at spliced
        exact spliced
      rw [written, readings_append_left blank spaceFree,
        readings_flatMap_append (free_of_lacking lacks), List.map_append, List.map_singleton,
        ← readings_of_free free, ← readings_append_left blank spaceFree (trimStart text), ← whole]

theorem mended_last {last : Nat} (mendable : Mendable rows) (ends : EndsInside rows last text)
    (free : '\n' ∉ text) :
    lackingAt (run {} (rows.take last)).depth (Line.read text).content = some [] ∧
      readings (Analysis.written (mendings rows) last text) =
        (text :: closingTags (run {} rows).depth).map
          (fun row => (Line.read row).content.reading) := by
  obtain ⟨news, split, fault⟩ := faults_of_row ends.here
  rw [ends.unclosed, List.filter_cons_of_pos (by simp), List.filter_nil] at split
  have nothing : news = [] := by
    have apart := mendable.apart.filter
      (fun diagnostic : Diagnostic => diagnostic.start.row == (last : Int))
    rw [split, List.pairwise_append] at apart
    rw [List.eq_nil_iff_forall_not_mem]
    intro diagnostic member
    apply apart.2.2 diagnostic member _ List.mem_cons_self
    rw [fault.start_of_mem diagnostic member]
  subst nothing
  refine ⟨?_, ?_⟩
  · generalize lackingAt (run {} (rows.take last)).depth (Line.read text).content = lacking at fault
    cases fault
    rfl
  · have unbroken : ∀ row ∈ text :: closingTags (run {} rows).depth, '\n' ∉ row := by
      refine List.forall_mem_cons.mpr ⟨free, fun row member => ?_⟩
      rcases List.mem_append.mp member with sub | top
      · rw [List.eq_of_mem_replicate sub]
        decide
      · rw [List.mem_singleton.mp top]
        decide
    have written : Analysis.written (mendings rows) last text =
        joinWith ['\n'] (text :: closingTags (run {} rows).depth) := by
      rw [Analysis.written, mendings, ofRow_corrections, split, closingTail_eq, joinWith_cons]
      have spliced := splice_insertAfter text
        ((closingTags (run {} rows).depth).flatMap ('\n' :: ·)) 0 text.length
      rw [List.take_length, List.drop_length, List.append_nil] at spliced
      exact spliced
    rw [written, readings, splitOn_joinWith (List.cons_ne_nil _ _) unbroken]

/-- A document as far as it has been read, and what has been read of its mended rows.  Behind the
row at which the document ends inside a block, the block is closed. -/
structure Mends (rows : List Text) (last : Nat) (first second : State) : Prop where
  read : first = run {} (rows.take first.row)
  clean : ClosureFree second.found
  before : first.row ≤ last → first.bare = second.bare
  behind : last < first.row → first.finish.bare = second.bare

theorem legal_closingTags {state : State} {top : OpenTop} (current : state.current = some top) :
    (((closingTags state.depth).filterMap Line.tagOf?).foldlM Tag.next state.depth).isSome := by
  cases sub : top.sub with
  | none =>
      rw [depth_of_top current sub]
      decide
  | some inner =>
      rw [depth_of_sub current sub]
      decide

section Content

variable {last : Nat} {first second : State} {pieces : List Text}

theorem Mends.step_before (mends : Mends rows last first second) (mendable : Mendable rows)
    (ends : EndsAt rows last) (here : rows[first.row]? = some text)
    (content : (Line.read text).content.isBlank = false) (free : '\n' ∉ text)
    (early : first.row ≠ last)
    (alike : pieces.map (fun row => (Line.read row).content.reading) =
      readings (Analysis.written (mendings rows) first.row text)) :
    Mends rows last (first.step text) (second.run pieces) := by
  have next : (first.step text).row = first.row + 1 := rfl
  have within := ends.row_le_last here content
  have elsewhere : ∀ diagnostic ∈ (run {} rows).unclosed, diagnostic.start.row ≠ first.row := by
    intro diagnostic member
    rcases ends with ⟨none, -⟩ | ⟨other, inside⟩
    · rw [none] at member
      cases member
    · rw [inside.unclosed, List.mem_singleton] at member
      rw [member]
      simp only
      omega
  obtain ⟨lacking, lacks, written⟩ := mended_row mendable here elsewhere free content
  rw [← mends.read] at lacks
  obtain ⟨blocks, clean⟩ := mended_step (mends.before within) mends.clean lacks
    (alike.trans written)
  refine ⟨?_, clean, fun _ => blocks, fun late => ?_⟩
  · rw [next, run_take_succ here, ← mends.read]
  · rw [next] at late
    omega

theorem Mends.step_last (mends : Mends rows last first second) (mendable : Mendable rows)
    (inside : EndsInside rows last text) (here : first.row = last) (free : '\n' ∉ text)
    (alike : pieces.map (fun row => (Line.read row).content.reading) =
      readings (Analysis.written (mendings rows) first.row text)) :
    Mends rows last (first.step text) (second.run pieces) := by
  subst here
  have next : (first.step text).row = first.row + 1 := rfl
  obtain ⟨fits, written⟩ := mended_last mendable inside free
  rw [← mends.read] at fits
  have read : first.step text = run {} (rows.take (first.row + 1)) := by
    rw [run_take_succ inside.here, ← mends.read]
  have alone : [text].map (fun row => (Line.read row).content.reading) =
      ([] ++ [text]).map (fun row => (Line.read row).content.reading) := rfl
  obtain ⟨blocks, clean⟩ := mended_step (mends.before (Nat.le_refl _)) mends.clean fits alone
  -- All later rows are blank, so the blocks that are open here are those left open at the end.
  have whole : (run {} rows).bare = (first.step text).bare := by
    rw [← run_take_drop rows (first.row + 1), ← read, bare_run_blank inside.blank]
  have depth : (run {} rows).depth = (second.step text).depth :=
    depth_of_bare (whole.trans blocks)
  obtain ⟨top, current⟩ : ∃ top, (second.step text).current = some top := by
    have still := current_of_bare (whole.trans blocks)
    have inBlock := inside.unclosed
    cases current : (run {} rows).current with
    | none => simp [unclosed, current] at inBlock
    | some open_ =>
        rw [current, Option.map_some] at still
        obtain ⟨top, same, -⟩ := Option.map_eq_some_iff.mp still.symm
        exact ⟨top, same⟩
  rw [depth] at written
  have alike' := alike.trans written
  refine ⟨read, ?_, fun early => ?_, fun _ => ?_⟩
  · rw [closureFree_found_run, tags_of_readings alike', ← closureFree_found_run, run_cons,
      closureFree_found_run]
    exact ⟨clean, legal_closingTags current⟩
  · rw [next] at early
    omega
  · rw [bare_run rfl alike', run_cons, bare_run_closingTags current]
    exact bare_finish blocks

end Content

theorem mends_simulates {last : Nat} (mendable : Mendable rows) (ends : EndsAt rows last)
    (free : ∀ text ∈ rows, '\n' ∉ text) :
    Layout.Simulates rows none (Analysis.written (mendings rows)) (Mends rows last) where
  blank_left := by
    intro first second text here blank mends
    have next : (first.step text).row = first.row + 1 := rfl
    refine ⟨?_, mends.clean, fun early => ?_, fun late => ?_⟩
    · rw [next, run_take_succ here, ← mends.read]
    · rw [bare_step_blank blank]
      exact mends.before (by omega)
    · rw [bare_finish (bare_step_blank blank first)]
      have early := ends.row_ne_last here blank
      exact mends.behind (by omega)
  blank_right := by
    intro first second text blank mends
    have untagged : Line.tagOf? text = none := by
      rw [Line.tagOf?, Content.eq_blank_of_isBlank blank]
      rfl
    refine ⟨mends.read, (step_without_tag second untagged).1.mpr mends.clean, ?_, ?_⟩
    · rw [bare_step_blank blank]
      exact mends.before
    · rw [bare_step_blank blank]
      exact mends.behind
  content := by
    intro first second text level here content mends
    have oneRow := free text (List.mem_of_getElem? here)
    by_cases early : first.row = last
    · rcases ends with ⟨-, rfl⟩ | ⟨other, inside⟩
      · have bound := (List.getElem?_eq_some_iff.mp here).1
        omega
      · obtain rfl : other = text := by
          rw [early] at here
          exact Option.some.inj (inside.here.symm.trans here)
        exact mends.step_last mendable inside early oneRow rfl
    · exact mends.step_before mendable ends here content oneRow early rfl

end Outline.State

open Outline Outline.State

theorem faults_eq (text path : Text) :
    faults (splitOn '\n' text) = (Document.ofText text path).structuralDiagnostics.filter
      (fun diagnostic => diagnostic.kind == .closure) :=
  (closures_finish _).symm

theorem edits_structuralDiagnostics (text path : Text) :
    (Document.ofText text path).structuralDiagnostics.filterMap Diagnostic.edit? =
      (faults (splitOn '\n' text)).filterMap Diagnostic.edit? := by
  rw [faults_eq text path, List.filterMap_filter]
  apply List.filterMap_congr
  intro diagnostic member
  rcases Document.kind_of_mem_structuralDiagnostics member with closure | ⟨duplication, uncorrected⟩
  · simp [closure]
  · simp [duplication, Diagnostic.edit?, uncorrected]

theorem Outline.State.Mendable.exists_start {rows : List Text} (mendable : Mendable rows)
    (row : Nat) :
    ∃ column, ∀ edit ∈ (faults rows).filterMap Diagnostic.edit?,
      edit.start.row = row → edit.start = ⟨row, column⟩ := by
  have apart := mendable.apart.filter
    (fun diagnostic : Diagnostic => diagnostic.start.row == (row : Int))
  have ofFault : ∀ edit ∈ (faults rows).filterMap Diagnostic.edit?, edit.start.row = row →
      ∃ diagnostic ∈ (faults rows).filter (fun diagnostic => diagnostic.start.row == (row : Int)),
        edit.start = diagnostic.start := by
    intro edit member inRow
    obtain ⟨diagnostic, inside, edited⟩ := List.mem_filterMap.mp member
    obtain ⟨correction, -, rfl⟩ := Option.map_eq_some_iff.mp edited
    exact ⟨diagnostic, List.mem_filter.mpr ⟨inside, by simpa using inRow⟩, rfl⟩
  match there : (faults rows).filter
      (fun diagnostic : Diagnostic => diagnostic.start.row == (row : Int)) with
  | [] =>
      refine ⟨0, fun edit member inRow => ?_⟩
      obtain ⟨diagnostic, inside, -⟩ := ofFault edit member inRow
      rw [there] at inside
      cases inside
  | [only] =>
      refine ⟨only.start.column, fun edit member inRow => ?_⟩
      obtain ⟨diagnostic, inside, start⟩ := ofFault edit member inRow
      rw [there, List.mem_singleton] at inside
      rw [start, inside] at inRow ⊢
      rw [← inRow]
  | one :: other :: rest =>
      rw [there, List.pairwise_cons] at apart
      have inFilter : ∀ diagnostic ∈ one :: other :: rest, diagnostic.start.row = row := by
        intro diagnostic member
        rw [← there] at member
        simpa using (List.mem_filter.mp member).2
      have differ := apart.1 other List.mem_cons_self
      rw [inFilter one (by simp), inFilter other (by simp)] at differ
      exact absurd rfl differ

theorem correct_structuralDiagnostics (text path : Text)
    (mendable : Mendable (splitOn '\n' text)) :
    text.correct (Document.ofText text path).structuralDiagnostics =
      .ok (joinWith ['\n'] (Layout.tidy none (Analysis.written (mendings (splitOn '\n' text))) 0 0
        false (splitOn '\n' text))) := by
  have inserts : ∀ diagnostic ∈ (Document.ofText text path).structuralDiagnostics,
      diagnostic.InsertsRows True (splitOn '\n' text) :=
    (rooted_read (splitOn '\n' text)).found
  have corrected := Analysis.correct_of_same_start text inserts fun row => by
    have start := mendable.exists_start row
    rwa [← edits_structuralDiagnostics text path] at start
  rw [edits_structuralDiagnostics text path] at corrected
  exact corrected

/-- Where every fault of the structure can be mended, no two of them in one row, the corrections
mend them all, and the document has the blocks that it was read to have. -/
theorem Document.structural_corrections_mend (text path : Text)
    (corrected : ∀ diagnostic ∈ (Document.ofText text path).structuralDiagnostics,
      diagnostic.kind = .closure → diagnostic.correction ≠ none)
    (apart : ((Document.ofText text path).structuralDiagnostics.filter
        (fun diagnostic => diagnostic.kind == .closure)).Pairwise
      (fun one other => one.start.row ≠ other.start.row)) :
    ∃ fixed : Text,
      text.correct (Document.ofText text path).structuralDiagnostics = .ok fixed ∧
        (∀ diagnostic ∈ (Document.ofText fixed path).structuralDiagnostics,
          diagnostic.kind ≠ .closure) ∧
        (Document.ofText fixed path).outline.map TopBlock.unplaced =
          (Document.ofText text path).outline.map TopBlock.unplaced := by
  let rows := splitOn '\n' text
  have mendable : Mendable rows := by
    constructor
    · intro diagnostic member
      rw [faults_eq text path, List.mem_filter, beq_iff_eq] at member
      exact corrected diagnostic member.1 member.2
    · rwa [faults_eq text path]
  obtain ⟨last, ends⟩ := exists_endsAt rows
  have free : ∀ row ∈ rows, '\n' ∉ row := fun _ member => not_mem_of_mem_splitOn member
  have start : Mends rows last {} {} :=
    ⟨rfl, by simp [ClosureFree], fun _ => rfl, fun late => absurd late (Nat.not_lt_zero _)⟩
  have here : rows.drop ({} : State).row = rows := rfl
  have mends := (mends_simulates mendable ends free).run free here 0 false start
  have closed : (run {} rows).finish.bare =
      (run {} ((Layout.tidy none (Analysis.written (mendings rows)) 0 0 false rows).flatMap
        (splitOn '\n'))).bare := by
    have whole : (run {} rows).row = rows.length := by simp [row_run]
    rcases ends with ⟨ended, rfl⟩ | ⟨other, inside⟩
    · have outside : (run {} rows).current = none := by
        cases current : (run {} rows).current with
        | none => rfl
        | some top => simp [unclosed, current] at ended
      rw [finish_of_none outside]
      exact mends.before (Nat.le_of_eq whole)
    · have bound := (List.getElem?_eq_some_iff.mp inside.here).1
      exact mends.behind (by omega)
  have read : ∀ path : Text, Outline.read (Document.ofText (joinWith ['\n'] (Layout.tidy none
        (Analysis.written (mendings rows)) 0 0 false rows)) path).rows =
      run {} ((Layout.tidy none (Analysis.written (mendings rows)) 0 0 false rows).flatMap
        (splitOn '\n')) := by
    intro path
    rw [Document.ofText, splitOn_joinWith_flatMap (Layout.tidy_ne_nil _ _ _ _
      (splitOn_ne_nil '\n' text)), Outline.read]
    apply finish_of_none
    have shut := current_of_bare closed
    rw [current_finish, Option.map_none] at shut
    exact Option.map_eq_none_iff.mp shut.symm
  refine ⟨_, correct_structuralDiagnostics text path mendable, ?_, ?_⟩
  · rw [Document.structuralDiagnostics, read]
    exact mends.clean
  · rw [Document.outline, read]
    exact (closed_of_bare closed).symm

def Document.unruly : Text :=
  "[A]\n[./b]\n[./c]\n[]\n[B]\n[./d]\n[C]\nx = 1\n".toList

theorem Document.unruly_mended :
    ∃ fixed : Text,
      Text.correct unruly (Document.anonymous unruly).structuralDiagnostics = .ok fixed ∧
        (∀ diagnostic ∈ (Document.anonymous fixed).structuralDiagnostics,
          diagnostic.kind ≠ .closure) ∧
        (Document.anonymous fixed).outline.map (fun top => (top.name, top.children.map (·.name))) =
          [(['A'], [['b'], ['c']]), (['B'], [['d']]), (['C'], [])] := by
  have corrected : ∀ diagnostic ∈ (Document.anonymous unruly).structuralDiagnostics,
      diagnostic.kind = .closure → diagnostic.correction ≠ none := by decide +kernel
  have apart : ((Document.anonymous unruly).structuralDiagnostics.filter
        (fun diagnostic => diagnostic.kind == .closure)).Pairwise
      (fun one other => one.start.row ≠ other.start.row) := by decide +kernel
  obtain ⟨fixed, result, clean, same⟩ :=
    Document.structural_corrections_mend unruly Document.unnamed corrected apart
  refine ⟨fixed, result, clean, ?_⟩
  have named : ∀ tops : List TopBlock, tops.map (fun top => (top.name, top.children.map (·.name))) =
      (tops.map TopBlock.unplaced).map (fun top => (top.name, top.children.map (·.name))) := by
    intro tops
    simp [Function.comp_def, TopBlock.unplaced, Block.unplaced]
  rw [named, Document.anonymous, same, ← named]
  decide +kernel

end InputDeck
