import InputDeck.Proofs.Outline.Faults
import InputDeck.Proofs.Outline.Rooted

/-!
The end of a document.  Every fault that is found while rows are read stands in its own row; where
the document ends inside a block, that is found at the last row that is not blank.
-/

namespace InputDeck

open Text

namespace Outline.State

def unclosed (state : State) : List Diagnostic :=
  match state.current with
  | none => []
  | some top =>
      let stop := state.contentEnd.getD ⟨0, 0⟩
      [{
        problem := .unclosed, start := ⟨stop.row, 0⟩, stop,
        correction := some (.insertAfter (closingTail top.depth)) }]

theorem finish_of_none {state : State} (current : state.current = none) : state.finish = state := by
  rw [finish, current]

theorem current_finish (state : State) : state.finish.current = none := by
  unfold finish
  cases current : state.current <;> simp [current]

theorem closures_finish (state : State) :
    state.finish.closures = state.closures ++ state.unclosed := by
  unfold finish unclosed
  cases state.current with
  | none => exact (List.append_nil _).symm
  | some top => exact closures_report state rfl

def EndsContent (rows : List Text) (state : State) : Prop :=
  ∀ row text, rows[row]? = some text → (Line.read text).content.isBlank = false → row < state.row →
    ∃ stop, state.contentEnd = some stop ∧ (row : Int) ≤ stop.row

theorem EndsContent.step {rows : List Text} {state : State} (ends : state.EndsContent rows)
    {text : Text} (here : rows[state.row]? = some text) : (state.step text).EndsContent rows := by
  intro row other there content before
  have next : (state.step text).row = state.row + 1 := rfl
  rw [next] at before
  cases blank : (Line.read text).content.isBlank with
  | true =>
      have earlier : row ≠ state.row := by
        rintro rfl
        rw [here, Option.some.injEq] at there
        rw [← there, blank] at content
        cases content
      obtain ⟨stop, ended, within⟩ := ends row other there content (by omega)
      exact ⟨stop, by simp [State.step, blank, ended], within⟩
  | false => exact ⟨⟨state.row, text.length⟩, by simp [State.step, blank], by simp only; omega⟩

theorem endsContent_run {rows rest : List Text} {state : State} (here : rows.drop state.row = rest)
    (ends : state.EndsContent rows) : (state.run rest).EndsContent rows := by
  induction rest generalizing state with
  | nil => exact ends
  | cons text rest ih =>
      exact ih (drop_succ_of_drop here) (ends.step (getElem?_of_drop here))

theorem row_run (state : State) (rows : List Text) :
    (state.run rows).row = state.row + rows.length := by
  induction rows generalizing state with
  | nil => rfl
  | cons row rows ih =>
      rw [run_cons, ih, List.length_cons]
      have next : (state.step row).row = state.row + 1 := rfl
      omega

section Rows

variable {rows : List Text} {row : Nat} {text : Text}

theorem run_take_succ (here : rows[row]? = some text) :
    run {} (rows.take (row + 1)) = (run {} (rows.take row)).step text := by
  rw [List.take_add_one, here, run_append]
  rfl

theorem row_run_take (here : rows[row]? = some text) :
    (run {} (rows.take row)).row = row := by
  have bound := (List.getElem?_eq_some_iff.mp here).1
  rw [row_run, List.length_take]
  simp only
  omega

theorem run_take_drop (rows : List Text) (row : Nat) :
    (run {} (rows.take row)).run (rows.drop row) = run {} rows := by
  rw [← run_append, List.take_append_drop]

theorem exists_closures_split (here : rows[row]? = some text) :
    ∃ before news later, (run {} rows).closures = before ++ news ++ later ∧
      Fault ⟨row, (Line.read text).indent⟩ ⟨row, (Line.read text).stop⟩
        (lackingAt (run {} (rows.take row)).depth (Line.read text).content) news ∧
      (∀ diagnostic ∈ before, diagnostic.start.row ≠ row) ∧
      ∀ diagnostic ∈ later, diagnostic.start.row ≠ row := by
  have bound := (List.getElem?_eq_some_iff.mp here).1
  obtain ⟨before, first, inBefore⟩ := closures_run {} (rows.take row)
  obtain ⟨news, second, fault⟩ := (run {} (rows.take row)).blames_step text
  obtain ⟨later, third, inLater⟩ :=
    closures_run (run {} (rows.take (row + 1))) (rows.drop (row + 1))
  rw [row_run_take here] at fault
  have next : (run {} (rows.take (row + 1))).row = row + 1 := by
    rw [row_run, List.length_take]
    simp only
    omega
  refine ⟨before, news, later, ?_, fault, ?_, ?_⟩
  · rw [← run_take_drop rows (row + 1), third, run_take_succ here, second, first]
    rfl
  · intro diagnostic member
    have within := (inBefore diagnostic member).2
    simp only [List.length_take] at within
    omega
  · intro diagnostic member
    have within := (inLater diagnostic member).1
    rw [next] at within
    omega

structure EndsInside (rows : List Text) (last : Nat) (text : Text) : Prop where
  here : rows[last]? = some text
  content : (Line.read text).content.isBlank = false
  unclosed : (run {} rows).unclosed = [{
    problem := .unclosed, start := ⟨last, 0⟩, stop := ⟨last, text.length⟩,
    correction := some (.insertAfter (closingTail (run {} rows).depth)) }]
  blank : ∀ row ∈ rows.drop (last + 1), (Line.read row).content.isBlank = true

theorem exists_endsInside {top : OpenTop} (current : (run {} rows).current = some top) :
    ∃ last text, EndsInside rows last text := by
  have initial : ({} : State).Rooted rows := ⟨by simp, by simp, by simp⟩
  have unended : ({} : State).Ended rows := fun opened => absurd rfl opened
  have start : rows.drop ({} : State).row = rows := rfl
  obtain ⟨last, text, here, content, -, stop⟩ :=
    (rooted_run start initial unended).2 (by simp [current])
  have whole : (run {} rows).row = rows.length := by simp [row_run]
  have ends : (run {} rows).EndsContent rows :=
    endsContent_run rfl fun _ _ _ _ before => absurd before (Nat.not_lt_zero _)
  refine ⟨last, text, here, content, ?_, ?_⟩
  · simp [unclosed, current, stop, depth]
  · intro other member
    obtain ⟨index, there⟩ := List.mem_iff_getElem?.mp member
    rw [List.getElem?_drop] at there
    have bound := (List.getElem?_eq_some_iff.mp there).1
    by_contra solid
    obtain ⟨ended, contentEnd, within⟩ := ends _ other there (by simpa using solid) (by omega)
    rw [stop, Option.some.injEq] at contentEnd
    rw [← contentEnd] at within
    simp only at within
    omega

/-- Where the rows of a document end, if not inside a block, or else the last row with content. -/
def EndsAt (rows : List Text) (last : Nat) : Prop :=
  (run {} rows).unclosed = [] ∧ last = rows.length ∨ ∃ text, EndsInside rows last text

namespace EndsAt

variable {last : Nat}

theorem row_le_last (ends : EndsAt rows last) (here : rows[row]? = some text)
    (content : (Line.read text).content.isBlank = false) : row ≤ last := by
  have bound := (List.getElem?_eq_some_iff.mp here).1
  rcases ends with ⟨-, rfl⟩ | ⟨other, inside⟩
  · omega
  · by_contra later
    have member : text ∈ rows.drop (last + 1) := by
      apply List.mem_of_getElem? (i := row - (last + 1))
      rw [List.getElem?_drop, ← here]
      congr 1
      omega
    rw [inside.blank text member] at content
    cases content

theorem row_ne_last (ends : EndsAt rows last) (here : rows[row]? = some text)
    (blank : (Line.read text).content.isBlank = true) : row ≠ last := by
  rintro rfl
  have bound := (List.getElem?_eq_some_iff.mp here).1
  rcases ends with ⟨-, same⟩ | ⟨other, inside⟩
  · omega
  · obtain rfl : other = text := Option.some.inj (inside.here.symm.trans here)
    rw [inside.content] at blank
    cases blank

end EndsAt

theorem exists_endsAt (rows : List Text) : ∃ last, EndsAt rows last := by
  cases current : (run {} rows).current with
  | none => exact ⟨rows.length, .inl ⟨by simp [unclosed, current], rfl⟩⟩
  | some top =>
      obtain ⟨last, text, inside⟩ := exists_endsInside current
      exact ⟨last, .inr ⟨text, inside⟩⟩

end Rows

end Outline.State

end InputDeck
