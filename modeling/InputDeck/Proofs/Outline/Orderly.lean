import InputDeck.Outline.Read

/-!
Reading without interruption.  Where no name is taken twice and no block opens or closes out of
turn, a row does one of seven things to the open blocks.
-/

namespace InputDeck

def Diagnostic.Harmless (diagnostic : Diagnostic) : Prop :=
  diagnostic.kind ≠ .duplication ∧ (diagnostic.kind = .closure → diagnostic.problem = .unclosed)

def Orderly (found : List Diagnostic) : Prop :=
  ∀ diagnostic ∈ found, diagnostic.Harmless

namespace Outline

inductive Advances : Option OpenTop → Content → Option OpenTop → Prop
  | openTop (name : Text) (start : Position) :
      Advances none (.openTop name) (some { block := { name, start } })
  | closeTop {top : OpenTop} (shut : top.sub = none) : Advances (some top) .closeTop none
  | openSub {top : OpenTop} (shut : top.sub = none) {name : Text}
      (fresh : name ∉ top.children.map (·.name)) (start : Position) :
      Advances (some top) (.openSub name) (some { top with sub := some { name, start } })
  | closeSub {top : OpenTop} {sub : OpenBlock} (opened : top.sub = some sub) (stop : Position) :
      Advances (some top) .closeSub (some (top.closeSub stop))
  | parameter {top : OpenTop} (parameter : Parameter)
      (fresh : findParameter? top.innermost.parameters parameter.name = none) :
      Advances (some top) (.parameter parameter.name parameter.value)
        (some (top.addParameter parameter))
  | outside (name : Text) (value : Option Placed) : Advances none (.parameter name value) none
  | idle (current : Option OpenTop) {content : Content}
      (passed : content = .comment ∨ content = .blank ∨ content = .other) :
      Advances current content current

namespace State

theorem orderly_report {state : State} {diagnostic : Diagnostic} :
    Orderly (state.report diagnostic).found ↔ Orderly state.found ∧ diagnostic.Harmless := by
  simp [Orderly, report, or_imp, forall_and]

theorem orderly_reportDuplicate {state : State} {siblings : List Text} {name : Text}
    {start stop : Position} :
    Orderly (state.reportDuplicate siblings name start stop).found ↔
      Orderly state.found ∧ name ∉ siblings := by
  rw [reportDuplicate]
  split
  · next taken =>
      rw [orderly_report]
      simp [Diagnostic.Harmless, Diagnostic.kind, Problem.kind, List.contains_iff_mem.mp taken]
  · next free => simpa using fun _ => by simpa using free

section

variable {state : State} {name : Text} {start stop : Position}

theorem advances_openTop (orderly : Orderly (state.openTop name start stop).found) :
    Orderly state.found ∧
      Advances state.current (.openTop name) (state.openTop name start stop).current := by
  cases current : state.current with
  | none =>
      simp only [openTop, current, orderly_reportDuplicate] at orderly ⊢
      exact ⟨orderly.1, .openTop name start⟩
  | some top =>
      simp [openTop, current, orderly_reportDuplicate, orderly_report, Diagnostic.Harmless,
        Diagnostic.kind, Problem.kind] at orderly

theorem advances_closeTop (orderly : Orderly (state.closeTop start stop).found) :
    Orderly state.found ∧
      Advances state.current .closeTop (state.closeTop start stop).current := by
  cases current : state.current with
  | none =>
      simp [closeTop, current, orderly_report, Diagnostic.Harmless, Diagnostic.kind,
        Problem.kind] at orderly
  | some top =>
      cases shut : top.sub with
      | none =>
          simp only [closeTop, current, shut, Option.isSome_none] at orderly ⊢
          exact ⟨orderly, .closeTop shut⟩
      | some sub =>
          simp [closeTop, current, shut, orderly_report, Diagnostic.Harmless, Diagnostic.kind,
            Problem.kind] at orderly

theorem advances_openSub (orderly : Orderly (state.openSub name start stop).found) :
    Orderly state.found ∧
      Advances state.current (.openSub name) (state.openSub name start stop).current := by
  cases current : state.current with
  | none =>
      simp [openSub, openSubOf, current, orderly_reportDuplicate, orderly_report,
        Diagnostic.Harmless, Diagnostic.kind, Problem.kind] at orderly
  | some top =>
      cases shut : top.sub with
      | none =>
          simp only [openSub, openSubOf, current, shut, Option.isSome_none, Bool.false_eq_true,
            if_false, orderly_reportDuplicate] at orderly ⊢
          exact ⟨orderly.1, .openSub shut orderly.2 start⟩
      | some sub =>
          simp [openSub, openSubOf, current, shut, orderly_reportDuplicate, orderly_report,
            Diagnostic.Harmless, Diagnostic.kind, Problem.kind] at orderly

theorem advances_closeSub (orderly : Orderly (state.closeSub start stop).found) :
    Orderly state.found ∧
      Advances state.current .closeSub (state.closeSub start stop).current := by
  cases current : state.current with
  | none =>
      simp [closeSub, current, orderly_report, Diagnostic.Harmless, Diagnostic.kind,
        Problem.kind] at orderly
  | some top =>
      cases opened : top.sub with
      | none =>
          simp [closeSub, current, opened, orderly_report, Diagnostic.Harmless, Diagnostic.kind,
            Problem.kind] at orderly
      | some sub =>
          simp only [closeSub, current, opened, Option.isSome_some] at orderly ⊢
          exact ⟨orderly, .closeSub opened stop⟩

theorem advances_addParameter {value : Option Placed}
    (orderly : Orderly (state.addParameter name value start stop).found) :
    Orderly state.found ∧ Advances state.current (.parameter name value)
      (state.addParameter name value start stop).current := by
  cases current : state.current with
  | none =>
      simp only [addParameter, current] at orderly ⊢
      exact ⟨orderly, .outside name value⟩
  | some top =>
      cases taken : findParameter? top.innermost.parameters name with
      | none =>
          simp only [addParameter, current, taken, Option.isSome_none] at orderly ⊢
          exact ⟨orderly, .parameter { name, value, start, stop } taken⟩
      | some other =>
          simp [addParameter, current, taken, orderly_report, Diagnostic.Harmless,
            Diagnostic.kind, Problem.kind] at orderly

end

theorem advances_step {state : State} {row : Text} (orderly : Orderly (state.step row).found) :
    Orderly state.found ∧
      Advances state.current (Line.read row).content (state.step row).current := by
  simp only [step, accept] at orderly ⊢
  cases content : (Line.read row).content with
  | openTop name =>
      simp only [content] at orderly ⊢
      exact advances_openTop orderly
  | closeTop =>
      simp only [content] at orderly ⊢
      exact advances_closeTop orderly
  | openSub name =>
      simp only [content] at orderly ⊢
      exact advances_openSub orderly
  | closeSub =>
      simp only [content] at orderly ⊢
      exact advances_closeSub orderly
  | parameter name value =>
      simp only [content] at orderly ⊢
      exact advances_addParameter orderly
  | comment | blank | other =>
      simp only [content] at orderly ⊢
      exact ⟨orderly, .idle _ (by simp)⟩

theorem orderly_of_run {state : State} {rows : List Text}
    (orderly : Orderly (state.run rows).found) : Orderly state.found := by
  induction rows generalizing state with
  | nil => exact orderly
  | cons row rows ih => exact (advances_step (ih orderly)).1

theorem orderly_of_finish {state : State} (orderly : Orderly state.finish.found) :
    Orderly state.found := by
  cases current : state.current with
  | none => simpa only [finish, current] using orderly
  | some top =>
      simp only [finish, current, orderly_report] at orderly
      exact orderly.1

end State

theorem orderly_take {rows : List Text} (orderly : Orderly (read rows).found) (count : Nat) :
    Orderly (State.run {} (rows.take count)).found := by
  have whole : Orderly (State.run {} rows).found := State.orderly_of_finish orderly
  rw [← List.take_append_drop count rows, State.run_append] at whole
  exact State.orderly_of_run whole

end Outline

end InputDeck
