import InputDeck.Loading.Cell

/-!
The numbers of loads.  Every request has a number of its own, so a load is in flight or has ended
but never both, and the cell waits exactly as long as the load of the last request has not ended.
-/

namespace InputDeck

namespace Loading

open Schema (Failure)

variable {Load Data : Type}

def Uncancelled (events : List (Event Load Data)) : Prop :=
  ∀ number, Event.land number .cancelled ∉ events

theorem uncancelled_cons (event : Event Load Data) (events : List (Event Load Data)) :
    Uncancelled (event :: events) ↔
      (∀ number, event ≠ .land number .cancelled) ∧ Uncancelled events := by
  simp [Uncancelled, forall_and, eq_comm]

namespace Cell

variable (cell : Cell Load Data) (outcome : Outcome Data)

theorem generation_settle : (cell.settle outcome).generation = cell.generation := by
  cases outcome <;> rfl

theorem pending_settle : (cell.settle outcome).pending = cell.pending := by
  cases outcome <;> rfl

theorem task_settle {outcome : Outcome Data} (ended : outcome ≠ .cancelled) :
    (cell.settle outcome).task = none := by
  cases outcome with
  | loaded data => rfl
  | failed failure => rfl
  | cancelled => exact absurd rfl ended

end Cell

namespace System

def InFlight (system : System Load Data) (number : Nat) : Prop :=
  ∃ flight ∈ system.flights, flight.number = number

def Landed (system : System Load Data) (number : Nat) : Prop :=
  ∃ landing ∈ system.landings, landing.number = number

/-- Loads are numbered by requests, and the last number tells what the cell waits for. -/
structure Numbered (system : System Load Data) : Prop where
  flights : ∀ number, system.InFlight number → number ≤ system.cell.generation
  landings : ∀ number, system.Landed number → number ≤ system.cell.generation
  outcomes : ∀ landing ∈ system.landings, landing.outcome ≠ .cancelled
  apart : ∀ number, system.InFlight number → ¬ system.Landed number
  pending : system.cell.pending ≠ none → 0 < system.cell.generation ∧
    ¬ system.InFlight system.cell.generation ∧ ¬ system.Landed system.cell.generation
  task : system.cell.pending = none → ∀ number, system.cell.task = some number →
    number = system.cell.generation ∧ 0 < number ∧ system.InFlight number
  idle : system.cell.pending = none → system.cell.task = none →
    system.cell.generation = 0 ∨ system.Landed system.cell.generation

theorem landing?_eq_none_iff (system : System Load Data) (number : Nat) :
    system.landing? number = none ↔ ¬ system.Landed number := by
  simp [landing?, Landed]

theorem mem_of_landing? {system : System Load Data} {number : Nat} {outcome : Outcome Data}
    (found : system.landing? number = some outcome) :
    ∃ landing ∈ system.landings, landing.number = number ∧ landing.outcome = outcome := by
  obtain ⟨landing, here, rfl⟩ := Option.map_eq_some_iff.mp found
  refine ⟨landing, List.mem_of_find?_eq_some here, ?_, rfl⟩
  simpa using List.find?_some here

theorem land_of_not_inFlight {system : System Load Data} {number : Nat}
    (grounded : ¬ system.InFlight number) (outcome : Outcome Data) :
    system.land number outcome = system := by
  have none : system.flights.find? (fun flight => flight.number == number) = none := by
    rw [List.find?_eq_none]
    intro flight member same
    exact grounded ⟨flight, member, by simpa using same⟩
  simp [land, none]

theorem land_of_inFlight {system : System Load Data} {number : Nat}
    (flying : system.InFlight number) (outcome : Outcome Data) :
    ∃ flight : Flight Load, flight.number = number ∧
      system.land number outcome =
        { system with
          cell :=
            if number = system.cell.generation then system.cell.settle (passedOn outcome)
            else system.cell,
          flights := system.flights.filter (fun flight => flight.number != number),
          landings := system.landings ++ [⟨flight, passedOn outcome⟩],
          unannounced := system.unannounced ++ [number] } := by
  cases found : system.flights.find? (fun flight => flight.number == number) with
  | none =>
      obtain ⟨flight, member, rfl⟩ := flying
      rw [List.find?_eq_none] at found
      exact absurd (beq_self_eq_true _) (found flight member)
  | some flight =>
      refine ⟨flight, by simpa using List.find?_some found, ?_⟩
      simp [land, found]

theorem cell_land {system : System Load Data} {number : Nat}
    (flying : system.InFlight number) (outcome : Outcome Data) :
    (system.land number outcome).cell =
      if number = system.cell.generation then system.cell.settle (passedOn outcome)
      else system.cell := by
  obtain ⟨flight, -, landed⟩ := land_of_inFlight flying outcome
  rw [landed]

theorem inFlight_land {system : System Load Data} {number : Nat}
    (flying : system.InFlight number) (outcome : Outcome Data) (other : Nat) :
    (system.land number outcome).InFlight other ↔ system.InFlight other ∧ other ≠ number := by
  obtain ⟨flight, rfl, landed⟩ := land_of_inFlight flying outcome
  rw [landed]
  constructor
  · rintro ⟨kept, member, rfl⟩
    obtain ⟨before, different⟩ := List.mem_filter.mp member
    exact ⟨⟨kept, before, rfl⟩, by simpa using different⟩
  · rintro ⟨⟨kept, before, rfl⟩, different⟩
    exact ⟨kept, List.mem_filter.mpr ⟨before, by simpa using different⟩, rfl⟩

theorem landed_land {system : System Load Data} {number : Nat}
    (flying : system.InFlight number) (outcome : Outcome Data) (other : Nat) :
    (system.land number outcome).Landed other ↔ system.Landed other ∨ number = other := by
  obtain ⟨flight, rfl, landed⟩ := land_of_inFlight flying outcome
  rw [landed]
  simp [Landed, or_and_right, exists_or]

theorem passedOn_ne_cancelled {outcome : Outcome Data} (ended : outcome ≠ .cancelled) :
    passedOn outcome ≠ .cancelled := by
  cases outcome with
  | loaded data => exact ended
  | failed failure => simp [passedOn]
  | cancelled => exact absurd rfl ended

theorem start_of_idle {system : System Load Data} (idle : system.cell.pending = none) :
    system.start = system := by
  simp [start, idle]

theorem start_of_pending {system : System Load Data} {load : Load}
    (pending : system.cell.pending = some load) :
    system.start = { system with
      cell := { system.cell with pending := none, task := some system.cell.generation },
      flights := system.flights ++ [⟨system.cell.generation, load⟩] } := by
  simp [start, pending]

theorem start_eq (system : System Load Data) :
    ∃ task pending flights,
      system.start = { system with cell := { system.cell with task, pending }, flights } := by
  cases pending : system.cell.pending with
  | none => exact ⟨_, _, _, start_of_idle pending⟩
  | some load => exact ⟨_, _, _, start_of_pending pending⟩

theorem request_eq (system : System Load Data) (serving : Bool) (load : Load) :
    ∃ task pending flights,
      system.request serving load =
        { system with
          cell := { system.cell with generation := system.cell.generation + 1, task, pending },
          flights } := by
  unfold request
  cases serving with
  | false => exact ⟨_, _, _, rfl⟩
  | true => exact start_eq { system with cell := { system.cell with
      generation := system.cell.generation + 1, pending := some load } }

theorem ask_eq (system : System Load Data) (query : Nat) :
    ∃ waiting answers, system.ask query = { system.start with waiting, answers } := by
  unfold ask
  dsimp only
  split
  · exact ⟨_, _, rfl⟩
  · split <;> exact ⟨_, _, rfl⟩

/-- An announcement makes the cell wait no longer only for a load that was called off. -/
theorem announce_eq (system : System Load Data) (number : Nat) :
    ∃ task unannounced reports,
      system.announce number =
        { system with cell := { system.cell with task }, unannounced, reports } ∧
      (task = system.cell.task ∨ system.landing? number = some .cancelled) := by
  unfold announce
  split
  · dsimp only
    split
    · next called => split <;> exact ⟨_, _, _, rfl, .inr called⟩
    · split <;> exact ⟨_, _, _, rfl, .inl rfl⟩
    · exact ⟨_, _, _, rfl, .inl rfl⟩
    · exact ⟨_, _, _, rfl, .inl rfl⟩
  · exact ⟨_, _, _, rfl, .inl rfl⟩

theorem resume_eq (system : System Load Data) (query : Nat) :
    ∃ waiting answers, system.resume query = { system with waiting, answers } := by
  unfold resume
  split
  · exact ⟨_, _, rfl⟩
  · split
    · exact ⟨_, _, rfl⟩
    · dsimp only
      split <;> exact ⟨_, _, rfl⟩

namespace Numbered

variable {system : System Load Data}

theorem start (numbered : system.Numbered) : system.start.Numbered := by
  cases pending : system.cell.pending with
  | none => rwa [start_of_idle pending]
  | some load =>
      obtain ⟨positive, -, unended⟩ := numbered.pending (by simp [pending])
      rw [start_of_pending pending]
      refine ⟨?_, numbered.landings, numbered.outcomes, ?_, by simp, ?_, by simp⟩
      · rintro number ⟨flight, member, rfl⟩
        rcases List.mem_append.mp member with earlier | last
        · exact numbered.flights _ ⟨flight, earlier, rfl⟩
        · obtain rfl := List.mem_singleton.mp last
          exact Nat.le_refl _
      · rintro number ⟨flight, member, rfl⟩
        rcases List.mem_append.mp member with earlier | last
        · exact numbered.apart _ ⟨flight, earlier, rfl⟩
        · rw [List.mem_singleton.mp last]
          exact unended
      · intro _ number same
        obtain rfl := Option.some.inj same
        exact ⟨rfl, positive, ⟨_, List.mem_append_right _ List.mem_cons_self, rfl⟩⟩

theorem request (numbered : system.Numbered) (serving : Bool) (load : Load) :
    (system.request serving load).Numbered := by
  have recorded : ({ system with cell := { system.cell with
      generation := system.cell.generation + 1, pending := some load } } :
      System Load Data).Numbered := by
    refine ⟨?_, ?_, numbered.outcomes, numbered.apart, ?_, by simp, by simp⟩
    · intro number flying
      exact Nat.le_succ_of_le (numbered.flights number flying)
    · intro number landed
      exact Nat.le_succ_of_le (numbered.landings number landed)
    · intro _
      refine ⟨Nat.succ_pos _, ?_, ?_⟩
      · intro flying
        exact Nat.not_succ_le_self _ (numbered.flights _ flying)
      · intro landed
        exact Nat.not_succ_le_self _ (numbered.landings _ landed)
  unfold System.request
  dsimp only
  split
  · exact recorded.start
  · exact recorded

theorem frame (numbered : system.Numbered) (unannounced : List Nat) (waiting : List Waiter)
    (answers : List (Answer Data)) (reports : List Failure) :
    ({ system with unannounced, waiting, answers, reports } : System Load Data).Numbered :=
  ⟨numbered.flights, numbered.landings, numbered.outcomes, numbered.apart, numbered.pending,
    numbered.task, numbered.idle⟩

theorem ask (numbered : system.Numbered) (query : Nat) : (system.ask query).Numbered := by
  obtain ⟨waiting, answers, asked⟩ := ask_eq system query
  rw [asked]
  exact numbered.start.frame _ waiting answers _

theorem land (numbered : system.Numbered) (number : Nat) {outcome : Outcome Data}
    (ended : outcome ≠ .cancelled) : (system.land number outcome).Numbered := by
  by_cases flying : system.InFlight number
  · have inFlight := inFlight_land flying outcome
    have landed := landed_land flying outcome
    obtain ⟨flight, rfl, result⟩ := land_of_inFlight flying outcome
    have settled := cell_land flying outcome
    have generation : (system.land flight.number outcome).cell.generation =
        system.cell.generation := by
      rw [settled]
      split
      · exact Cell.generation_settle _ _
      · rfl
    have pending : (system.land flight.number outcome).cell.pending = system.cell.pending := by
      rw [settled]
      split
      · exact Cell.pending_settle _ _
      · rfl
    constructor
    · intro number still
      rw [generation]
      exact numbered.flights number ((inFlight number).mp still).1
    · intro number there
      rw [generation]
      rcases (landed number).mp there with before | rfl
      · exact numbered.landings number before
      · exact numbered.flights _ flying
    · rw [result]
      intro landing member
      rcases List.mem_append.mp member with before | last
      · exact numbered.outcomes landing before
      · rw [List.mem_singleton.mp last]
        exact passedOn_ne_cancelled ended
    · intro number still there
      obtain ⟨before, different⟩ := (inFlight number).mp still
      rcases (landed number).mp there with earlier | same
      · exact numbered.apart number before earlier
      · exact different same.symm
    · rw [generation, pending]
      intro waits
      obtain ⟨positive, grounded, unended⟩ := numbered.pending waits
      refine ⟨positive, fun still => grounded ((inFlight _).mp still).1, fun there => ?_⟩
      rcases (landed _).mp there with before | same
      · exact unended before
      · exact grounded (same ▸ flying)
    · rw [generation, pending]
      intro started number waits
      by_cases last : flight.number = system.cell.generation
      · rw [settled, if_pos last, Cell.task_settle _ (passedOn_ne_cancelled ended)] at waits
        cases waits
      · rw [settled, if_neg last] at waits
        obtain ⟨rfl, positive, still⟩ := numbered.task started number waits
        exact ⟨rfl, positive, (inFlight _).mpr ⟨still, fun same => last same.symm⟩⟩
    · rw [generation, pending]
      intro started none
      by_cases last : flight.number = system.cell.generation
      · exact .inr ((landed _).mpr (.inr last))
      · rw [settled, if_neg last] at none
        rcases numbered.idle started none with unused | before
        · exact .inl unused
        · exact .inr ((landed _).mpr (.inl before))
  · rw [land_of_not_inFlight flying]
    exact numbered

theorem announce_eq (numbered : system.Numbered) (number : Nat) :
    ∃ unannounced reports, system.announce number = { system with unannounced, reports } := by
  obtain ⟨task, unannounced, reports, announced, kept⟩ := System.announce_eq system number
  rcases kept with rfl | called
  · exact ⟨unannounced, reports, announced⟩
  · obtain ⟨landing, member, -, cancelled⟩ := mem_of_landing? called
    exact absurd cancelled (numbered.outcomes landing member)

theorem announce (numbered : system.Numbered) (number : Nat) :
    (system.announce number).Numbered := by
  obtain ⟨unannounced, reports, announced⟩ := numbered.announce_eq number
  rw [announced]
  exact numbered.frame unannounced _ _ reports

theorem resume (numbered : system.Numbered) (query : Nat) : (system.resume query).Numbered := by
  obtain ⟨waiting, answers, resumed⟩ := resume_eq system query
  rw [resumed]
  exact numbered.frame _ waiting answers _

theorem step (numbered : system.Numbered) {event : Event Load Data}
    (ended : ∀ number, event ≠ .land number .cancelled) : (system.step event).Numbered := by
  cases event with
  | request serving load => exact numbered.request serving load
  | ask query => exact numbered.ask query
  | land number outcome =>
      refine numbered.land number ?_
      rintro rfl
      exact ended number rfl
  | announce number => exact numbered.announce number
  | resume query => exact numbered.resume query

theorem run (numbered : system.Numbered) {events : List (Event Load Data)}
    (uncancelled : Uncancelled events) : (system.run events).Numbered := by
  induction events generalizing system with
  | nil => exact numbered
  | cons event events ih =>
      rw [uncancelled_cons] at uncancelled
      exact ih (numbered.step uncancelled.1) uncancelled.2

theorem loading_iff (numbered : system.Numbered) :
    system.cell.phase = .loading ↔
      0 < system.cell.generation ∧ ¬ system.Landed system.cell.generation := by
  cases pending : system.cell.pending with
  | some load =>
      obtain ⟨positive, -, unended⟩ := numbered.pending (by simp [pending])
      simp [Cell.phase, pending, positive, unended]
  | none =>
      cases task : system.cell.task with
      | some number =>
          obtain ⟨rfl, positive, flying⟩ := numbered.task pending number task
          simp [Cell.phase, task, positive, numbered.apart _ flying]
      | none =>
          have idle := numbered.idle pending task
          have quiet : system.cell.phase ≠ .loading := by
            simp only [Cell.phase, pending, task, Option.isSome_none, Bool.or_false]
            cases system.cell.data <;> simp
          constructor
          · exact fun loading => absurd loading quiet
          · rintro ⟨positive, unended⟩
            rcases idle with unused | landed
            · omega
            · exact absurd landed unended

end Numbered

theorem numbered_initial : ({} : System Load Data).Numbered :=
  ⟨by simp [InFlight], by simp [Landed], by simp, by simp [InFlight], by simp, by simp, by simp⟩

end System

end Loading

end InputDeck
