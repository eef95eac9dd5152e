import InputDeck.Proofs.Line.Tag
import InputDeck.Proofs.Outline.Edge

/-!
The spans of an outline.  A block ends no earlier than it starts and encloses its sub-blocks, blocks
follow one another, and a parameter stands on a row of its block that belongs to no sub-block.
-/

namespace InputDeck

namespace Outline

structure Parameter.Within (first last : Int) (parameter : Parameter) : Prop where
  level : parameter.stop.row = parameter.start.row
  first : first ≤ parameter.start.row
  last : parameter.start.row ≤ last

structure Block.Spanned (block : Block) : Prop where
  ordered : block.start ≤ block.stop
  parameters : ∀ parameter ∈ block.parameters, parameter.Within block.start.row block.stop.row

structure TopBlock.Spanned (top : TopBlock) : Prop extends top.toBlock.Spanned where
  children : ∀ child ∈ top.children,
    child.Spanned ∧ top.start ≤ child.start ∧ child.stop ≤ top.stop
  siblings : top.children.Pairwise (fun previous next => previous.stop < next.start)
  apart : ∀ parameter ∈ top.parameters, ∀ child ∈ top.children,
    parameter.start.row < child.start.row ∨ child.stop.row < parameter.start.row

structure OpenBlock.Spanned (last : Position) (block : OpenBlock) : Prop where
  ordered : block.start ≤ last
  parameters : ∀ parameter ∈ block.parameters, parameter.Within block.start.row last.row

structure OpenTop.Spanned (last : Position) (top : OpenTop) : Prop where
  block : top.block.Spanned last
  children : ∀ child ∈ top.children,
    child.Spanned ∧ top.block.start ≤ child.start ∧ child.stop ≤ last
  siblings : top.children.Pairwise (fun previous next => previous.stop < next.start)
  apart : ∀ parameter ∈ top.block.parameters, ∀ child ∈ top.children,
    parameter.start.row < child.start.row ∨ child.stop.row < parameter.start.row
  sub : ∀ sub, top.sub = some sub →
    sub.Spanned last ∧ top.block.start ≤ sub.start ∧
      (∀ child ∈ top.children, child.stop < sub.start) ∧
      ∀ parameter ∈ top.block.parameters, parameter.start.row < sub.start.row

end Outline

namespace Position

theorem row_le_of_le {first second : Position} (before : first ≤ second) :
    first.row ≤ second.row := by
  rw [le_def] at before
  omega

theorem lt_of_row_lt {first second : Position} (before : first.row < second.row) :
    first < second :=
  .inl before

theorem le_of_row_lt {first second : Position} (before : first.row < second.row) :
    first ≤ second :=
  .inl before

theorem lt_of_le_of_row_lt {first second third : Position} (before : first ≤ second)
    (after : second.row < third.row) : first < third :=
  lt_of_row_lt (Int.lt_of_le_of_lt (row_le_of_le before) after)

end Position

namespace Outline

open Position

namespace OpenBlock.Spanned

variable {block : OpenBlock} {last stop : Position}

theorem extend (spanned : block.Spanned last) (later : last ≤ stop) : block.Spanned stop where
  ordered := le_trans spanned.ordered later
  parameters := by
    intro parameter member
    obtain ⟨level, first, before⟩ := spanned.parameters parameter member
    exact ⟨level, first, Int.le_trans before (row_le_of_le later)⟩

theorem close (spanned : block.Spanned last) (later : last ≤ stop) : (block.close stop).Spanned :=
  ⟨(spanned.extend later).ordered, (spanned.extend later).parameters⟩

theorem addParameter (spanned : block.Spanned last) {next : Position} {parameter : Parameter}
    (after : last.row < parameter.start.row) (level : parameter.stop.row = parameter.start.row)
    (before : parameter.start ≤ next) :
    ({ block with parameters := block.parameters ++ [parameter] } : OpenBlock).Spanned next := by
  have extended := spanned.extend (le_trans (le_of_row_lt after) before)
  refine ⟨extended.ordered, ?_⟩
  intro other member
  rcases List.mem_append.mp member with earlier | added
  · exact extended.parameters other earlier
  · obtain rfl := List.mem_singleton.mp added
    have started := row_le_of_le spanned.ordered
    exact ⟨level, Int.le_of_lt (Int.lt_of_le_of_lt started after), row_le_of_le before⟩

end OpenBlock.Spanned

theorem OpenTop.block_closeSub (top : OpenTop) (stop : Position) :
    (top.closeSub stop).block = top.block := by
  unfold OpenTop.closeSub
  split <;> rfl

namespace OpenTop.Spanned

variable {top : OpenTop} {last stop : Position}

theorem extend (spanned : top.Spanned last) (later : last ≤ stop) : top.Spanned stop where
  block := spanned.block.extend later
  children := by
    intro child member
    obtain ⟨childSpanned, after, before⟩ := spanned.children child member
    exact ⟨childSpanned, after, le_trans before later⟩
  siblings := spanned.siblings
  apart := spanned.apart
  sub := by
    intro sub opened
    obtain ⟨subSpanned, rest⟩ := spanned.sub sub opened
    exact ⟨subSpanned.extend later, rest⟩

theorem closeSub (spanned : top.Spanned last) (later : last ≤ stop) :
    (top.closeSub stop).Spanned stop := by
  unfold OpenTop.closeSub
  cases opened : top.sub with
  | none => exact spanned.extend later
  | some sub =>
      have extended := spanned.extend later
      obtain ⟨subSpanned, inside, behind, below⟩ := spanned.sub sub opened
      have closed := subSpanned.close later
      refine ⟨extended.block, ?_, ?_, ?_, by simp⟩
      · intro child member
        rcases List.mem_append.mp member with earlier | added
        · exact extended.children child earlier
        · obtain rfl := List.mem_singleton.mp added
          exact ⟨closed, inside, le_refl stop⟩
      · rw [List.pairwise_append]
        refine ⟨spanned.siblings, List.pairwise_singleton _ _, ?_⟩
        intro child member added here
        obtain rfl := List.mem_singleton.mp here
        exact behind child member
      · intro parameter member child inside
        rcases List.mem_append.mp inside with earlier | added
        · exact spanned.apart parameter member child earlier
        · obtain rfl := List.mem_singleton.mp added
          exact .inl (below parameter member)

theorem close (spanned : top.Spanned last) (later : last ≤ stop) : (top.close stop).Spanned := by
  have closed := spanned.closeSub later
  have started := closed.children
  have apart := closed.apart
  rw [top.block_closeSub] at started apart
  have own := spanned.block.close later
  exact ⟨⟨own.ordered, own.parameters⟩, started, closed.siblings, apart⟩

theorem openSub (spanned : top.Spanned last) (name : Text)
    {start next : Position} (after : last.row < start.row) (before : start ≤ next) :
    ({ top with sub := some { name, start } } : OpenTop).Spanned next := by
  have extended := spanned.extend (le_trans (le_of_row_lt after) before)
  refine ⟨extended.block, extended.children, extended.siblings, extended.apart, ?_⟩
  intro sub opened
  obtain rfl := Option.some.inj opened
  refine ⟨⟨before, by simp⟩, ?_, ?_, ?_⟩
  · exact le_trans spanned.block.ordered (le_of_row_lt after)
  · intro child member
    exact lt_of_le_of_row_lt (spanned.children child member).2.2 after
  · intro parameter member
    exact Int.lt_of_le_of_lt (spanned.block.parameters parameter member).last after

theorem addParameter (spanned : top.Spanned last) {next : Position} {parameter : Parameter}
    (after : last.row < parameter.start.row) (level : parameter.stop.row = parameter.start.row)
    (before : parameter.start ≤ next) : (top.addParameter parameter).Spanned next := by
  have extended := spanned.extend (le_trans (le_of_row_lt after) before)
  unfold OpenTop.addParameter
  cases opened : top.sub with
  | some sub =>
      obtain ⟨subSpanned, rest⟩ := spanned.sub sub opened
      refine ⟨extended.block, extended.children, extended.siblings, extended.apart, ?_⟩
      intro other same
      obtain rfl := Option.some.inj same
      exact ⟨subSpanned.addParameter after level before, rest⟩
  | none =>
      refine ⟨spanned.block.addParameter after level before, extended.children, extended.siblings,
        ?_, by simp⟩
      intro other member child inside
      rcases List.mem_append.mp member with earlier | added
      · exact spanned.apart other earlier child inside
      · obtain rfl := List.mem_singleton.mp added
        have ended := row_le_of_le (spanned.children child inside).2.2
        exact .inr (Int.lt_of_le_of_lt ended after)

end OpenTop.Spanned

namespace State

structure Spanned (last : Position) (state : State) : Prop where
  closed : ∀ top ∈ state.closed, top.Spanned ∧ top.stop ≤ last
  siblings : state.closed.Pairwise (fun previous next => previous.stop < next.start)
  current : ∀ top, state.current = some top →
    top.Spanned last ∧ ∀ previous ∈ state.closed, previous.stop < top.block.start

namespace Spanned

variable {state : State} {last next stop start : Position}

theorem report (spanned : state.Spanned last) (diagnostic : Diagnostic) :
    (state.report diagnostic).Spanned last :=
  ⟨spanned.closed, spanned.siblings, spanned.current⟩

theorem reportDuplicate (spanned : state.Spanned last) (siblings : List Text) (name : Text)
    (start stop : Position) : (state.reportDuplicate siblings name start stop).Spanned last := by
  unfold State.reportDuplicate
  split
  · exact spanned.report _
  · exact spanned

theorem extend (spanned : state.Spanned last) (later : last ≤ next) : state.Spanned next where
  closed := by
    intro top member
    obtain ⟨topSpanned, before⟩ := spanned.closed top member
    exact ⟨topSpanned, le_trans before later⟩
  siblings := spanned.siblings
  current := by
    intro top current
    obtain ⟨topSpanned, behind⟩ := spanned.current top current
    exact ⟨topSpanned.extend later, behind⟩

theorem close (spanned : state.Spanned last) {top : OpenTop} (current : state.current = some top)
    (later : last ≤ stop) :
    ({ state with closed := state.closed ++ [top.close stop], current := none } :
      State).Spanned stop := by
  obtain ⟨topSpanned, behind⟩ := spanned.current top current
  refine ⟨?_, ?_, by simp⟩
  · intro other member
    rcases List.mem_append.mp member with earlier | added
    · exact (spanned.extend later).closed other earlier
    · obtain rfl := List.mem_singleton.mp added
      exact ⟨topSpanned.close later, le_refl stop⟩
  · rw [List.pairwise_append]
    refine ⟨spanned.siblings, List.pairwise_singleton _ _, ?_⟩
    intro other member added here
    obtain rfl := List.mem_singleton.mp here
    exact behind other member

theorem withCurrent (spanned : state.Spanned last) (later : last ≤ next) {top : OpenTop}
    (topSpanned : top.Spanned next) (behind : ∀ previous ∈ state.closed,
      previous.stop < top.block.start) :
    ({ state with current := some top } : State).Spanned next := by
  have extended := spanned.extend later
  refine ⟨extended.closed, extended.siblings, ?_⟩
  intro other same
  obtain rfl := Option.some.inj same
  exact ⟨topSpanned, behind⟩

end Spanned

/-- A position comes behind what has been read, with the end of a row in between while something is
open. -/
structure Ahead (last start : Position) (state : State) : Prop where
  after : last.row < start.row
  between : state.current ≠ none → last ≤ state.rowEnd ∧ state.rowEnd.row < start.row

namespace Spanned

variable {state : State} {last start stop next : Position}

theorem stop_lt (spanned : state.Spanned last) (after : last.row < start.row) :
    ∀ previous ∈ state.closed, previous.stop < start := by
  intro previous member
  exact lt_of_le_of_row_lt (spanned.closed previous member).2 after

theorem openBlock (spanned : state.Spanned last) (after : last.row < start.row)
    (before : start ≤ next) (siblings : List Text) (name : Text) (stop : Position) :
    ({ state.reportDuplicate siblings name start stop with
      current := some { block := { name, start } } } : State).Spanned next := by
  have reported := spanned.reportDuplicate siblings name start stop
  have fresh : ({ block := { name, start } } : OpenTop).Spanned next :=
    ⟨⟨before, by simp⟩, by simp, by simp, by simp, by simp⟩
  exact reported.withCurrent (le_trans (le_of_row_lt after) before) fresh (reported.stop_lt after)

theorem openTop (spanned : state.Spanned last) (ahead : state.Ahead last start)
    (before : start ≤ next) (name : Text) (stop : Position) :
    (state.openTop name start stop).Spanned next := by
  unfold State.openTop
  cases current : state.current with
  | none => exact spanned.openBlock ahead.after before _ name stop
  | some top =>
      obtain ⟨later, between⟩ := ahead.between (by simp [current])
      exact ((spanned.report _).close current later).openBlock between before _ name stop

theorem closeTop (spanned : state.Spanned last) (later : last ≤ stop) (before : stop ≤ next)
    (start : Position) : (state.closeTop start stop).Spanned next := by
  unfold State.closeTop
  cases current : state.current with
  | none => exact (spanned.report _).extend (le_trans later before)
  | some top =>
      dsimp only
      split
      · exact ((spanned.report _).close current later).extend before
      · exact (spanned.close current later).extend before

theorem openSubOf (spanned : state.Spanned last) (later : last ≤ next) {top : OpenTop} {name : Text}
    (opened : ({ top with sub := some { name, start } } : OpenTop).Spanned next)
    (behind : ∀ previous ∈ state.closed, previous.stop < top.block.start) (stop : Position) :
    (state.openSubOf top name start stop).Spanned next := by
  have reported := spanned.reportDuplicate (top.children.map (·.name)) name start stop
  refine reported.withCurrent later opened ?_
  unfold State.reportDuplicate
  split <;> exact behind

theorem openSub (spanned : state.Spanned last) (ahead : state.Ahead last start)
    (before : start ≤ next) (name : Text) (stop : Position) :
    (state.openSub name start stop).Spanned next := by
  have later := le_trans (le_of_row_lt ahead.after) before
  unfold State.openSub
  cases current : state.current with
  | none =>
      have opened : ({ block := { name := [], start }, sub := some { name, start } } :
          OpenTop).Spanned next := by
        refine ⟨⟨before, by simp⟩, by simp, by simp, by simp, ?_⟩
        intro sub same
        obtain rfl := Option.some.inj same
        exact ⟨⟨before, by simp⟩, le_refl start, by simp, by simp⟩
      exact (spanned.report _).openSubOf later opened (spanned.stop_lt ahead.after) stop
  | some top =>
      obtain ⟨topSpanned, behind⟩ := spanned.current top current
      dsimp only
      split
      · obtain ⟨ended, between⟩ := ahead.between (by simp [current])
        have opened := (topSpanned.closeSub ended).openSub name between before
        refine (spanned.report _).openSubOf later opened ?_ stop
        rw [top.block_closeSub]
        exact behind
      · exact spanned.openSubOf later (topSpanned.openSub name ahead.after before) behind stop

theorem closeSub (spanned : state.Spanned last) (later : last ≤ stop) (before : stop ≤ next)
    (start : Position) : (state.closeSub start stop).Spanned next := by
  unfold State.closeSub
  cases current : state.current with
  | none => exact (spanned.report _).extend (le_trans later before)
  | some top =>
      obtain ⟨topSpanned, behind⟩ := spanned.current top current
      dsimp only
      split
      · refine (spanned.withCurrent later (topSpanned.closeSub later) ?_).extend before
        rw [top.block_closeSub]
        exact behind
      · exact (spanned.report _).extend (le_trans later before)

theorem addParameter (spanned : state.Spanned last) (after : last.row < start.row)
    (before : start ≤ next) (name : Text) (value : Option Placed) {stop : Position}
    (level : stop.row = start.row) :
    (state.addParameter name value start stop).Spanned next := by
  have later := le_trans (le_of_row_lt after) before
  unfold State.addParameter
  cases current : state.current with
  | none => exact spanned.extend later
  | some top =>
      obtain ⟨topSpanned, behind⟩ := spanned.current top current
      have added : (top.addParameter ⟨name, value, [], start, stop⟩).Spanned next :=
        topSpanned.addParameter after level before
      have started : (top.addParameter ⟨name, value, [], start, stop⟩).block.start =
          top.block.start := by
        unfold OpenTop.addParameter
        split <;> rfl
      dsimp only
      split
      · exact (spanned.report _).withCurrent later added (started ▸ behind)
      · exact spanned.withCurrent later added (started ▸ behind)

theorem accept (spanned : state.Spanned last) {line : Line}
    (ahead : state.Ahead last ⟨state.row, line.indent⟩) (ordered : line.indent ≤ line.stop)
    {width : Nat} (within : line.stop ≤ width) :
    (state.accept line).Spanned ⟨state.row, width⟩ := by
  have started : (⟨state.row, line.indent⟩ : Position) ≤ ⟨state.row, width⟩ :=
    .inr ⟨rfl, by simp only; omega⟩
  have later : last ≤ (⟨state.row, line.stop⟩ : Position) := le_of_row_lt ahead.after
  have before : (⟨state.row, line.stop⟩ : Position) ≤ ⟨state.row, width⟩ :=
    .inr ⟨rfl, by simp only; omega⟩
  unfold State.accept
  cases line.content with
  | openTop name => exact spanned.openTop ahead started name _
  | closeTop => exact spanned.closeTop later before _
  | openSub name => exact spanned.openSub ahead started name _
  | closeSub => exact spanned.closeSub later before _
  | parameter name value => exact spanned.addParameter ahead.after started name value rfl
  | comment | blank | other => exact spanned.extend (le_trans later before)

end Spanned

structure Reached (last : Position) (state : State) : Prop where
  spanned : state.Spanned last
  row : last.row < state.row
  ended : state.current ≠ none → state.contentEnd = some last ∧ last ≤ state.rowEnd ∧
    state.rowEnd.row < state.row

theorem Reached.step {state : State} {last : Position} (reached : state.Reached last)
    (text : Text) : ∃ next, (state.step text).Reached next := by
  have read : (state.row : Int) < (state.step text).row := Int.lt_succ _
  cases blank : (Line.read text).content.isBlank with
  | true =>
      have content := Content.eq_blank_of_isBlank blank
      have kept : (state.step text).closed = state.closed ∧
          (state.step text).current = state.current ∧
          (state.step text).contentEnd = state.contentEnd := by
        simp [State.step, State.accept, content, Content.isBlank]
      obtain ⟨closed, current, ended⟩ := kept
      obtain ⟨spanned, row, open'⟩ := reached
      refine ⟨last, ⟨?_, ?_, ?_⟩, Int.lt_trans row read, ?_⟩
      · exact closed ▸ spanned.closed
      · exact closed ▸ spanned.siblings
      · rw [current, closed]
        exact spanned.current
      · rw [current, ended]
        intro some
        exact ⟨(open' some).1, le_of_row_lt row, read⟩
  | false =>
      have ahead : state.Ahead last ⟨state.row, (Line.read text).indent⟩ :=
        ⟨reached.row, fun current => (reached.ended current).2⟩
      have accepted := reached.spanned.accept ahead (Line.indent_read_le_stop text)
        (Line.stop_read_le text)
      refine ⟨⟨state.row, text.length⟩, ⟨accepted.closed, accepted.siblings, accepted.current⟩,
        read, ?_⟩
      intro _
      exact ⟨by simp [State.step, blank], le_refl _, read⟩

theorem reached_run {state : State} {last : Position} (reached : state.Reached last)
    (rows : List Text) : ∃ next, (state.run rows).Reached next := by
  induction rows generalizing state last with
  | nil => exact ⟨last, reached⟩
  | cons row rows ih =>
      obtain ⟨next, stepped⟩ := reached.step row
      exact ih stepped

theorem Reached.finish {state : State} {last : Position} (reached : state.Reached last) :
    state.finish.Spanned last := by
  unfold State.finish
  cases current : state.current with
  | none => exact reached.spanned
  | some top =>
      obtain ⟨content, -⟩ := reached.ended (by simp [current])
      simp only [content, Option.getD_some]
      exact (reached.spanned.report _).close current (le_refl last)

end State

theorem spanned_read (rows : List Text) : ∃ last, (Outline.read rows).Spanned last := by
  have initial : ({} : State).Reached ⟨-1, 0⟩ :=
    ⟨⟨by simp, by simp, by simp⟩, by decide, fun current => absurd rfl current⟩
  obtain ⟨last, reached⟩ := State.reached_run initial rows
  exact ⟨last, reached.finish⟩

theorem reader_read (rows : List Text) :
    Reader.read rows = some (Outline.read rows).reader := by
  have run := State.reader_run {} rows
  rw [Reader.read, Outline.read, ← State.reader_finish]
  exact congrArg (Option.map Reader.finish) run

theorem current_read (rows : List Text) : (Outline.read rows).current = none := by
  unfold Outline.read State.finish
  split
  · assumption
  · rfl

end Outline

theorem Document.outline_shaped_and_spanned (doc : Document) :
    (∀ count, ∃ reader, Outline.Reader.run {} (doc.rows.take count) = some reader ∧
      reader.Shaped ∧ reader = (Outline.State.run {} (doc.rows.take count)).reader) ∧
    (∃ reader, Outline.Reader.read doc.rows = some reader ∧ reader.stack = [] ∧
      reader.blocks = doc.outline.map Outline.TopBlock.tree ∧
      reader.found = doc.structuralDiagnostics) ∧
    (∀ top ∈ doc.outline, top.Spanned) ∧
    doc.outline.Pairwise (fun previous next => previous.stop < next.start) := by
  obtain ⟨last, spanned⟩ := Outline.spanned_read doc.rows
  have none := Outline.current_read doc.rows
  refine ⟨?_, ⟨_, Outline.reader_read doc.rows, ?_, ?_, rfl⟩, ?_, spanned.siblings⟩
  · intro count
    exact ⟨_, Outline.State.reader_run {} _, Outline.State.shaped_reader _, rfl⟩
  · simp [Outline.State.reader, none]
  · simp [Outline.State.reader, none, outline]
  · intro top member
    exact (spanned.closed top member).1

end InputDeck
