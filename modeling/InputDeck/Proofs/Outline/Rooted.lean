import InputDeck.Outline.Read
import InputDeck.Proofs.Edit.Insertion

/-!
Where the blocks of an outline come from, and what the corrections of its structure write.  Every
block that has a name opens at a row of the document, and every correction writes closing tags into
a row that is not blank.
-/

namespace InputDeck

open Text

/-- The correction of a finding writes rows into one row of a document. -/
def Diagnostic.InsertsRows (plain : Prop) (rows : List Text) (diagnostic : Diagnostic) : Prop :=
  ∀ edit, diagnostic.edit? = some edit → ∃ row text, rows[row]? = some text ∧
    (Line.read text).content.isBlank = false ∧ Edit.Insertion plain row text edit

theorem Diagnostic.insertsRows_of_uncorrected {diagnostic : Diagnostic} (plain : Prop)
    (rows : List Text) (uncorrected : diagnostic.correction = none) :
    diagnostic.InsertsRows plain rows := by
  intro edit corrected
  rw [Diagnostic.edit?, uncorrected] at corrected
  cases corrected

theorem Diagnostic.InsertsRows.weaken {rows : List Text} {diagnostic : Diagnostic}
    (inserts : diagnostic.InsertsRows True rows) (plain : Prop) :
    diagnostic.InsertsRows plain rows := by
  intro edit corrected
  obtain ⟨row, text, here, content, insertion⟩ := inserts edit corrected
  refine ⟨row, text, here, content, ?_⟩
  cases insertion with
  | before stop body within shut tagged => exact .before stop body within shut tagged
  | header level name body opened guards =>
      exact .header level name body opened fun _ => guards trivial
  | tail body guards unclosed => exact .tail body guards unclosed

namespace Outline

def OpensAt (rows : List Text) (level : Level) (name : Text) (start : Position) : Prop :=
  ∃ row text, rows[row]? = some text ∧ (Line.read text).content = level.opening name ∧
    start = ⟨(row : Nat), ((text.takeWhile isBlank).length : Nat)⟩

structure TopBlock.Rooted (rows : List Text) (top : TopBlock) : Prop where
  block : top.name = [] ∨ OpensAt rows .top top.name top.start
  children : ∀ child ∈ top.children, OpensAt rows .sub child.name child.start

structure OpenTop.Rooted (rows : List Text) (top : OpenTop) : Prop where
  block : top.block.name = [] ∨ OpensAt rows .top top.block.name top.block.start
  children : ∀ child ∈ top.children, OpensAt rows .sub child.name child.start
  sub : ∀ sub, top.sub = some sub → OpensAt rows .sub sub.name sub.start

namespace OpenTop.Rooted

variable {rows : List Text} {top : OpenTop}

theorem closeSub (rooted : top.Rooted rows) (stop : Position) :
    (top.closeSub stop).Rooted rows := by
  unfold OpenTop.closeSub
  cases sub : top.sub with
  | none => exact rooted
  | some inner =>
      refine ⟨rooted.block, ?_, by simp⟩
      intro child member
      rcases List.mem_append.mp member with before | last
      · exact rooted.children child before
      · rw [List.mem_singleton.mp last]
        exact rooted.sub inner sub

theorem close (rooted : top.Rooted rows) (stop : Position) : (top.close stop).Rooted rows :=
  ⟨rooted.block, (rooted.closeSub stop).children⟩

theorem addParameter (rooted : top.Rooted rows) (parameter : Parameter) :
    (top.addParameter parameter).Rooted rows := by
  unfold OpenTop.addParameter
  cases sub : top.sub with
  | none => exact ⟨rooted.block, rooted.children, by simp⟩
  | some inner =>
      refine ⟨rooted.block, rooted.children, ?_⟩
      intro other same
      obtain rfl := Option.some.inj same
      exact rooted.sub inner sub

end OpenTop.Rooted

namespace State

structure Rooted (rows : List Text) (state : State) : Prop where
  closed : ∀ top ∈ state.closed, top.Rooted rows
  current : ∀ top, state.current = some top → top.Rooted rows
  found : ∀ diagnostic ∈ state.found, diagnostic.InsertsRows True rows

theorem closingRows_shut (top : OpenTop) :
    ∃ body, closingRows top.depth = body ++ ['\n'] ∧ openings body = 0 := by
  cases sub : top.sub with
  | none => exact ⟨"[]".toList, by simp [OpenTop.depth, sub, closingRows], by decide⟩
  | some inner =>
      exact ⟨"[../]\n[]".toList, by simp [OpenTop.depth, sub, closingRows], by decide⟩

theorem closingTail_guards (top : OpenTop) :
    ∃ body, closingTail top.depth = '\n' :: body ∧ Guards body := by
  cases sub : top.sub with
  | none =>
      refine ⟨"[]".toList, by simp [OpenTop.depth, sub, closingTail], ?_⟩
      intro row member rest
      obtain rfl : row = "[]".toList := by simpa [splitOn] using member
      exact (Line.not_opens_closing rest).1
  | some inner =>
      refine ⟨"[../]\n[]".toList, by simp [OpenTop.depth, sub, closingTail], ?_⟩
      intro row member rest
      have split : splitOn '\n' "[../]\n[]".toList = ["[../]".toList, "[]".toList] := by decide
      rw [split] at member
      rcases List.mem_cons.mp member with rfl | last
      · exact (Line.not_opens_closing _).2
      · obtain rfl := List.mem_singleton.mp last
        exact (Line.not_opens_closing rest).1

def TagBetween (rows : List Text) (start stop : Position) : Prop :=
  ∀ problem body, openings body = 0 →
    ({ problem, start, stop, correction := some (.insertBefore (body ++ ['\n'])) } :
      Diagnostic).InsertsRows True rows

namespace Rooted

variable {rows : List Text} {state : State}

theorem report (rooted : state.Rooted rows) {diagnostic : Diagnostic}
    (inserts : diagnostic.InsertsRows True rows) : (state.report diagnostic).Rooted rows where
  closed := rooted.closed
  current := rooted.current
  found := by
    intro other member
    rcases List.mem_append.mp member with before | last
    · exact rooted.found other before
    · rwa [List.mem_singleton.mp last]

theorem reportDuplicate (rooted : state.Rooted rows) (siblings : List Text) (name : Text)
    (start stop : Position) : (state.reportDuplicate siblings name start stop).Rooted rows := by
  unfold State.reportDuplicate
  split
  · exact rooted.report (Diagnostic.insertsRows_of_uncorrected _ _ rfl)
  · exact rooted

theorem close (rooted : state.Rooted rows) {top : OpenTop} (topRooted : top.Rooted rows)
    (stop : Position) :
    ({ state with closed := state.closed ++ [top.close stop], current := none } :
      State).Rooted rows where
  closed := by
    intro other member
    rcases List.mem_append.mp member with before | last
    · exact rooted.closed other before
    · rw [List.mem_singleton.mp last]
      exact topRooted.close stop
  current := by simp
  found := rooted.found

theorem withCurrent (rooted : state.Rooted rows) {top : OpenTop} (topRooted : top.Rooted rows) :
    ({ state with current := some top } : State).Rooted rows where
  closed := rooted.closed
  current := by
    intro other same
    obtain rfl := Option.some.inj same
    exact topRooted
  found := rooted.found

theorem openTop (rooted : state.Rooted rows) {name : Text} {start stop : Position}
    (opens : OpensAt rows .top name start) (tag : TagBetween rows start stop) :
    (state.openTop name start stop).Rooted rows := by
  have newTop : ({ block := { name, start } } : OpenTop).Rooted rows :=
    ⟨.inr opens, by simp, by simp⟩
  cases current : state.current with
  | none =>
      simp only [State.openTop, current]
      exact (rooted.reportDuplicate _ name start stop).withCurrent newTop
  | some top =>
      obtain ⟨body, closing, shut⟩ := closingRows_shut top
      simp only [State.openTop, current, closing]
      have reported := rooted.report (tag .openedBeforeClosed body shut)
      exact ((reported.close (rooted.current top current) state.rowEnd).reportDuplicate
        _ name start stop).withCurrent newTop

theorem closeTop (rooted : state.Rooted rows) {start stop : Position}
    (tag : TagBetween rows start stop) : (state.closeTop start stop).Rooted rows := by
  cases current : state.current with
  | none =>
      simp only [State.closeTop, current]
      exact rooted.report (Diagnostic.insertsRows_of_uncorrected _ _ rfl)
  | some top =>
      simp only [State.closeTop, current]
      split
      · exact (rooted.report (tag .closedBeforeChild "[../]".toList (by decide))).close
          (rooted.current top current) stop
      · exact rooted.close (rooted.current top current) stop

theorem openSubOf (rooted : state.Rooted rows) {top : OpenTop} (topRooted : top.Rooted rows)
    {name : Text} {start : Position} (opens : OpensAt rows .sub name start) (stop : Position) :
    (state.openSubOf top name start stop).Rooted rows := by
  have newTop : ({ top with sub := some { name, start } } : OpenTop).Rooted rows :=
    ⟨topRooted.block, topRooted.children, by simpa using opens⟩
  exact (rooted.reportDuplicate _ name start stop).withCurrent newTop

theorem openSub (rooted : state.Rooted rows) {name : Text} {start stop : Position}
    (opens : OpensAt rows .sub name start) (tag : TagBetween rows start stop) :
    (state.openSub name start stop).Rooted rows := by
  cases current : state.current with
  | none =>
      simp only [State.openSub, current]
      have unnamed : ({ block := { name := [], start } } : OpenTop).Rooted rows :=
        ⟨.inl rfl, by simp, by simp⟩
      exact (rooted.report (Diagnostic.insertsRows_of_uncorrected _ _ rfl)).openSubOf unnamed
        opens stop
  | some top =>
      have topRooted := rooted.current top current
      simp only [State.openSub, current]
      split
      · exact (rooted.report (tag .childBeforeClosed "[../]".toList (by decide))).openSubOf
          (topRooted.closeSub state.rowEnd) opens stop
      · exact rooted.openSubOf topRooted opens stop

theorem closeSub (rooted : state.Rooted rows) (start stop : Position) :
    (state.closeSub start stop).Rooted rows := by
  cases current : state.current with
  | none =>
      simp only [State.closeSub, current]
      exact rooted.report (Diagnostic.insertsRows_of_uncorrected _ _ rfl)
  | some top =>
      simp only [State.closeSub, current]
      split
      · exact rooted.withCurrent ((rooted.current top current).closeSub stop)
      · exact rooted.report (Diagnostic.insertsRows_of_uncorrected _ _ rfl)

theorem addParameter (rooted : state.Rooted rows) (name : Text) (value : Option Placed)
    (start stop : Position) : (state.addParameter name value start stop).Rooted rows := by
  cases current : state.current with
  | none =>
      simp only [State.addParameter, current]
      exact rooted
  | some top =>
      have topRooted := (rooted.current top current).addParameter ⟨name, value, [], start, stop⟩
      simp only [State.addParameter, current]
      split
      · exact (rooted.report (Diagnostic.insertsRows_of_uncorrected _ _ rfl)).withCurrent topRooted
      · exact rooted.withCurrent topRooted

end Rooted

private theorem tagBetween_of_row {rows : List Text} {row : Nat} {text : Text}
    (here : rows[row]? = some text)
    (tagged : (Line.read text).content = .closeTop ∨ Line.opens text = true) :
    TagBetween rows ⟨row, (Line.read text).indent⟩ ⟨row, (Line.read text).stop⟩ := by
  have content : (Line.read text).content.isBlank = false := by
    rcases tagged with closing | opens
    · rw [closing]
      rfl
    · exact Line.isBlank_of_opens opens
  intro problem body shut edit corrected
  obtain rfl := Option.some.inj corrected
  refine ⟨row, text, here, content, ?_⟩
  rw [Line.indent_read content]
  exact .before _ body (Line.stop_read_le text) shut tagged

private theorem opensAt_of_row {rows : List Text} {row : Nat} {text name : Text} {level : Level}
    (here : rows[row]? = some text) (opened : (Line.read text).content = level.opening name) :
    OpensAt rows level name ⟨row, (Line.read text).indent⟩ := by
  exact ⟨row, text, here, opened, by rw [Line.indent_read (Line.isBlank_of_opening opened)]⟩

theorem Rooted.accept {rows : List Text} {state : State} (rooted : state.Rooted rows) {text : Text}
    (here : rows[state.row]? = some text) : (state.accept (Line.read text)).Rooted rows := by
  have between := tagBetween_of_row here
  unfold State.accept
  cases content : (Line.read text).content with
  | openTop name =>
      exact rooted.openTop (opensAt_of_row here content)
        (between (.inr (by simp [Line.opens, content])))
  | closeTop => exact rooted.closeTop (between (.inl content))
  | openSub name =>
      exact rooted.openSub (opensAt_of_row here content)
        (between (.inr (by simp [Line.opens, content])))
  | closeSub => exact rooted.closeSub _ _
  | parameter name value => exact rooted.addParameter name value _ _
  | comment | blank | other => exact rooted

/-- The last row that is not blank, while a block is open: it does not close one. -/
def Ended (rows : List Text) (state : State) : Prop :=
  state.current ≠ none → ∃ row text, rows[row]? = some text ∧
    (Line.read text).content.isBlank = false ∧ (Line.read text).content ≠ .closeTop ∧
      state.contentEnd = some ⟨(row : Nat), (text.length : Nat)⟩

theorem Rooted.step {rows : List Text} {state : State} (rooted : state.Rooted rows) {text : Text}
    (here : rows[state.row]? = some text) : (state.step text).Rooted rows where
  closed := (rooted.accept here).closed
  current := (rooted.accept here).current
  found := (rooted.accept here).found

theorem Ended.step {rows : List Text} {state : State} (ended : state.Ended rows) {text : Text}
    (here : rows[state.row]? = some text) : (state.step text).Ended rows := by
  intro current
  cases blank : (Line.read text).content.isBlank with
  | true =>
      have content := Content.eq_blank_of_isBlank blank
      obtain ⟨row, last, found, solid, unclosed, stop⟩ :=
        ended (by simpa [State.step, State.accept, content] using current)
      exact ⟨row, last, found, solid, unclosed, by simpa [State.step, blank] using stop⟩
  | false =>
      refine ⟨state.row, text, here, blank, ?_, by simp [State.step, blank]⟩
      intro closing
      apply current
      cases before : state.current <;>
        simp [State.step, State.accept, closing, State.closeTop, before, State.report]

theorem rooted_run {rows rest : List Text} {state : State} (here : rows.drop state.row = rest)
    (rooted : state.Rooted rows) (ended : state.Ended rows) :
    (state.run rest).Rooted rows ∧ (state.run rest).Ended rows := by
  induction rest generalizing state with
  | nil => exact ⟨rooted, ended⟩
  | cons text rest ih =>
      have found := getElem?_of_drop here
      exact ih (drop_succ_of_drop here) (rooted.step found) (ended.step found)

theorem Rooted.finish {rows : List Text} {state : State} (rooted : state.Rooted rows)
    (ended : state.Ended rows) : state.finish.Rooted rows := by
  unfold State.finish
  cases current : state.current with
  | none => exact rooted
  | some top =>
      obtain ⟨row, text, here, content, unclosed, stop⟩ := ended (by simp [current])
      obtain ⟨body, closing, guards⟩ := closingTail_guards top
      simp only [stop, Option.getD_some, closing]
      refine (rooted.report ?_).close (rooted.current top current) _
      intro edit corrected
      obtain rfl := Option.some.inj corrected
      exact ⟨row, text, here, content, .tail body guards unclosed⟩

end State

theorem rooted_read (rows : List Text) : (Outline.read rows).Rooted rows := by
  have initial : ({} : State).Rooted rows := ⟨by simp, by simp, by simp⟩
  have unended : ({} : State).Ended rows := fun current => absurd rfl current
  obtain ⟨rooted, ended⟩ := State.rooted_run rfl initial unended
  exact rooted.finish ended

end Outline

end InputDeck
