import InputDeck.Proofs.Loading.Answers

/-!
The numbers of loads and queries, whatever happens: no load ends twice, also when loads are called
off, and no query is answered twice.
-/

namespace InputDeck

namespace Loading

open Schema (Failure)

variable {Load Data : Type}

namespace System

/-- A load ends at most once, and one that is requested but not started has a number of its own. -/
structure Launched (system : System Load Data) : Prop where
  started : ∀ number, system.InFlight number ∨ system.Landed number →
    number ≤ system.cell.generation ∧
      (system.cell.pending ≠ none → number ≠ system.cell.generation)
  apart : ∀ number, system.InFlight number → ¬ system.Landed number

namespace Launched

variable {system : System Load Data}

theorem frame (launched : system.Launched) (task : Option Nat) (unannounced : List Nat)
    (waiting : List Waiter) (answers : List (Answer Data)) (reports : List Failure) :
    ({ system with
      cell := { system.cell with task }, unannounced, waiting, answers, reports } :
        System Load Data).Launched :=
  ⟨launched.started, launched.apart⟩

theorem start (launched : system.Launched) : system.start.Launched := by
  cases pending : system.cell.pending with
  | none =>
      rw [start_of_idle pending]
      exact launched
  | some load =>
      have new : ∀ number, system.InFlight number ∨ system.Landed number →
          number ≠ system.cell.generation :=
        fun number there => (launched.started number there).2 (by simp [pending])
      rw [start_of_pending pending]
      constructor
      · rintro number (⟨flight, member, rfl⟩ | landed)
        · refine ⟨?_, fun there => absurd rfl there⟩
          rcases List.mem_append.mp member with earlier | last
          · exact (launched.started _ (.inl ⟨flight, earlier, rfl⟩)).1
          · obtain rfl := List.mem_singleton.mp last
            exact Nat.le_refl _
        · exact ⟨(launched.started number (.inr landed)).1, fun there => absurd rfl there⟩
      · rintro number ⟨flight, member, rfl⟩ landed
        rcases List.mem_append.mp member with earlier | last
        · exact launched.apart _ ⟨flight, earlier, rfl⟩ landed
        · exact new _ (.inr landed) (by rw [List.mem_singleton.mp last])

theorem request (launched : system.Launched) (serving : Bool) (load : Load) :
    (system.request serving load).Launched := by
  have recorded : ({ system with cell := { system.cell with
      generation := system.cell.generation + 1, pending := some load } } :
      System Load Data).Launched := by
    refine ⟨fun number there => ?_, launched.apart⟩
    have below := (launched.started number there).1
    exact ⟨Nat.le_succ_of_le below, fun _ => Nat.ne_of_lt (Nat.lt_succ_of_le below)⟩
  cases serving with
  | false => exact recorded
  | true => exact recorded.start

theorem land (launched : system.Launched) (number : Nat) (outcome : Outcome Data) :
    (system.land number outcome).Launched := by
  by_cases flying : system.InFlight number
  · have cell := cell_land flying outcome
    have generation : (system.land number outcome).cell.generation = system.cell.generation := by
      rw [cell, apply_ite Cell.generation, Cell.generation_settle, ite_self]
    have pending : (system.land number outcome).cell.pending = system.cell.pending := by
      rw [cell, apply_ite Cell.pending, Cell.pending_settle, ite_self]
    constructor
    · intro other there
      rw [generation, pending]
      rw [inFlight_land flying, landed_land flying] at there
      rcases there with ⟨still, -⟩ | landed | rfl
      · exact launched.started other (.inl still)
      · exact launched.started other (.inr landed)
      · exact launched.started number (.inl flying)
    · intro other still landed
      rw [inFlight_land flying] at still
      rw [landed_land flying] at landed
      rcases landed with before | same
      · exact launched.apart other still.1 before
      · exact still.2 same.symm
  · rw [land_of_not_inFlight flying]
    exact launched

theorem step (launched : system.Launched) (event : Event Load Data) :
    (system.step event).Launched := by
  cases event with
  | request serving load => exact launched.request serving load
  | ask query =>
      obtain ⟨waiting, answers, asked⟩ := ask_eq system query
      rw [System.step, asked]
      exact launched.start.frame _ _ waiting answers _
  | land number outcome => exact launched.land number outcome
  | announce number =>
      obtain ⟨task, unannounced, reports, announced, -⟩ := announce_eq system number
      rw [System.step, announced]
      exact launched.frame task unannounced _ _ reports
  | resume query =>
      obtain ⟨waiting, answers, resumed⟩ := resume_eq system query
      rw [System.step, resumed]
      exact launched.frame _ _ waiting answers _

end Launched

theorem launched_initial : ({} : System Load Data).Launched :=
  ⟨by simp [InFlight, Landed], by simp [InFlight]⟩

end System

structure Booked (asked : Nat) (waiting : List Waiter) (answers : List (Answer Data)) : Prop where
  queued : ∀ waiter ∈ waiting, waiter.query < asked ∧
    ∀ answer ∈ answers, answer.query ≠ waiter.query
  served : ∀ answer ∈ answers, answer.query < asked
  single : waiting.Pairwise (·.query ≠ ·.query)

namespace Booked

variable {asked : Nat} {system : System Load Data}

theorem serve (booked : Booked asked system.waiting system.answers) {event : Event Load Data}
    {waiting : List Waiter} {answers : List (Answer Data)}
    (serves : system.Serves event waiting answers) {next : Nat} (later : asked ≤ next)
    (asks : ∀ query, event = .ask query → query = asked ∧ asked < next) :
    Booked next waiting answers := by
  have before : ∀ waiter ∈ system.waiting, waiter.query < next := fun waiter member =>
    Nat.lt_of_lt_of_le (booked.queued waiter member).1 later
  have answered : ∀ answer ∈ system.answers, answer.query < next := fun answer member =>
    Nat.lt_of_lt_of_le (booked.served answer member) later
  cases serves with
  | nothing other =>
      exact ⟨fun waiter member => ⟨before waiter member, (booked.queued waiter member).2⟩, answered,
        booked.single⟩
  | wait query task =>
      obtain ⟨rfl, below⟩ := asks query rfl
      refine ⟨?_, answered, ?_⟩
      · rw [List.forall_mem_append, List.forall_mem_singleton]
        refine ⟨fun waiter member => ⟨before waiter member, (booked.queued waiter member).2⟩,
          below, fun answer member => Nat.ne_of_lt (booked.served answer member)⟩
      · rw [List.pairwise_append]
        refine ⟨booked.single, List.pairwise_singleton _ _, fun waiter member last added => ?_⟩
        obtain rfl := List.mem_singleton.mp added
        exact Nat.ne_of_lt (booked.queued waiter member).1
  | reply query given =>
      obtain ⟨rfl, below⟩ := asks query rfl
      refine ⟨fun waiter member => ⟨before waiter member, ?_⟩, ?_, booked.single⟩
      · rw [List.forall_mem_append, List.forall_mem_singleton]
        exact ⟨(booked.queued waiter member).2, Nat.ne_of_gt (booked.queued waiter member).1⟩
      · rw [List.forall_mem_append, List.forall_mem_singleton]
        exact ⟨answered, below⟩
  | resume query waits outcome =>
      obtain ⟨waiter, member, rfl⟩ := waits
      refine ⟨fun other kept => ?_, ?_, booked.single.filter _⟩
      · obtain ⟨inside, different⟩ := List.mem_filter.mp kept
        have apart : other.query ≠ waiter.query := by simpa using different
        refine ⟨before other inside, ?_⟩
        rw [List.forall_mem_append, List.forall_mem_singleton]
        exact ⟨(booked.queued other inside).2, apart.symm⟩
      · rw [List.forall_mem_append, List.forall_mem_singleton]
        exact ⟨answered, before waiter member⟩

theorem find?_of_mem {waiting : List Waiter} {answers : List (Answer Data)}
    (booked : Booked asked waiting answers) {waiter : Waiter} (member : waiter ∈ waiting) :
    waiting.find? (fun other => other.query == waiter.query) = some waiter := by
  obtain ⟨before, after, rfl⟩ := List.append_of_mem member
  rw [List.find?_eq_some_iff_append]
  refine ⟨beq_self_eq_true _, before, after, rfl, fun other earlier => ?_⟩
  have apart := (List.pairwise_append.mp booked.single).2.2 other earlier waiter List.mem_cons_self
  simpa using apart

end Booked

end Loading

end InputDeck
