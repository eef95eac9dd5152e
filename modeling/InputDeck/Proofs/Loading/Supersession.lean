import InputDeck.Proofs.Loading.Flights
import Mathlib.Data.List.Induction

/-!
Which load a cell keeps.  Whatever the order of events, the value is that of the newest load that
ended well before it was superseded, and a superseded load changes nothing.
-/

namespace InputDeck

namespace Loading

variable {Load Data : Type}

def Event.isRequest : Event Load Data → Bool
  | .request _ _ => true
  | _ => false

def requests (events : List (Event Load Data)) : Nat :=
  events.countP Event.isRequest

/-- In the course of events, a load that is in flight ends when so many requests have been made. -/
def Lands (events : List (Event Load Data)) (number : Nat) (outcome : Outcome Data)
    (made : Nat) : Prop :=
  ∃ before after, events = before ++ .land number outcome :: after ∧
    (System.run {} before).InFlight number ∧ requests before = made

/-- A load gives a value while no newer one is requested. -/
def Delivers (events : List (Event Load Data)) (number : Nat) (data : Data) : Prop :=
  Lands events number (.loaded data) number

def Finished (events : List (Event Load Data)) (number : Nat) : Prop :=
  ∃ outcome made, Lands events number outcome made

theorem requests_concat (events : List (Event Load Data)) (event : Event Load Data) :
    requests (events ++ [event]) = requests events + if event.isRequest then 1 else 0 := by
  simp [requests, List.countP_append, List.countP_cons]

theorem Lands.made_le {events : List (Event Load Data)} {number made : Nat}
    {outcome : Outcome Data} (lands : Lands events number outcome made) :
    made ≤ requests events := by
  obtain ⟨before, after, rfl, -, rfl⟩ := lands
  simp [requests, List.countP_append]

theorem lands_concat (events : List (Event Load Data)) (event : Event Load Data) (number made : Nat)
    (outcome : Outcome Data) :
    Lands (events ++ [event]) number outcome made ↔
      Lands events number outcome made ∨
        (event = .land number outcome ∧ (System.run {} events).InFlight number ∧
          requests events = made) := by
  constructor
  · rintro ⟨before, after, split, flying, count⟩
    rcases List.eq_nil_or_concat after with rfl | ⟨inner, last, rfl⟩
    · obtain ⟨rfl, same⟩ := List.append_inj' split rfl
      exact .inr ⟨by simpa using same, flying, count⟩
    · have shorter : events ++ [event] = (before ++ .land number outcome :: inner) ++ [last] := by
        simpa using split
      obtain ⟨rfl, -⟩ := List.append_inj' shorter rfl
      exact .inl ⟨before, inner, rfl, flying, count⟩
  · rintro (⟨before, after, rfl, flying, count⟩ | ⟨rfl, flying, count⟩)
    · exact ⟨before, after ++ [event], by simp, flying, count⟩
    · exact ⟨events, [], rfl, flying, count⟩

namespace System

theorem run_concat (system : System Load Data) (events : List (Event Load Data))
    (event : Event Load Data) : system.run (events ++ [event]) = (system.run events).step event :=
  run_append system events [event]

inductive Moves (system : System Load Data) : Event Load Data → Cell Load Data → Prop
  | request (serving : Bool) (load : Load) (task : Option Nat) (pending : Option Load) :
      Moves system (.request serving load)
        { system.cell with generation := system.cell.generation + 1, task, pending }
  | settle {number : Nat} (outcome : Outcome Data) (flying : system.InFlight number)
      (newest : number = system.cell.generation) :
      Moves system (.land number outcome) (system.cell.settle (passedOn outcome))
  | keep {event : Event Load Data} (unasked : event.isRequest = false)
      (elsewhere : ∀ number outcome, event = .land number outcome → system.InFlight number →
        number ≠ system.cell.generation)
      (task : Option Nat) (pending : Option Load) :
      Moves system event { system.cell with task, pending }

theorem moves_step (system : System Load Data) (event : Event Load Data) :
    system.Moves event (system.step event).cell := by
  have kept {event : Event Load Data} (unasked : event.isRequest = false)
      (unended : ∀ number outcome, event ≠ .land number outcome) (task : Option Nat)
      (pending : Option Load) : system.Moves event { system.cell with task, pending } :=
    .keep unasked (fun number outcome same => absurd same (unended number outcome)) task pending
  cases event with
  | request serving load =>
      obtain ⟨task, pending, flights, requested⟩ := request_eq system serving load
      rw [step, requested]
      exact .request serving load task pending
  | ask query =>
      obtain ⟨waiting, answers, asked⟩ := ask_eq system query
      obtain ⟨task, pending, flights, started⟩ := start_eq system
      rw [step, asked, started]
      exact kept rfl (by simp) task pending
  | land number outcome =>
      rw [step]
      by_cases flying : system.InFlight number
      · rw [cell_land flying]
        split
        · next newest => exact .settle outcome flying newest
        · next older =>
            refine .keep rfl ?_ system.cell.task system.cell.pending
            intro other _ same _
            cases same
            exact older
      · rw [land_of_not_inFlight flying]
        refine .keep rfl ?_ system.cell.task system.cell.pending
        intro other _ same there
        cases same
        exact absurd there flying
  | announce number =>
      obtain ⟨task, unannounced, reports, announced, -⟩ := announce_eq system number
      rw [step, announced]
      exact kept rfl (by simp) task system.cell.pending
  | resume query =>
      obtain ⟨waiting, answers, resumed⟩ := resume_eq system query
      rw [step, resumed]
      exact kept rfl (by simp) system.cell.task system.cell.pending

theorem generation_step (system : System Load Data) (event : Event Load Data) :
    (system.step event).cell.generation =
      system.cell.generation + if event.isRequest then 1 else 0 := by
  have moves := moves_step system event
  generalize (system.step event).cell = cell at moves
  cases moves with
  | request serving load task pending => rfl
  | settle outcome flying newest => exact Cell.generation_settle _ _
  | keep unasked elsewhere task pending => simp [unasked]

theorem generation_run (events : List (Event Load Data)) :
    (run {} events).cell.generation = requests events := by
  induction events using List.reverseRecOn with
  | nil => rfl
  | append_singleton events event ih =>
      rw [run_concat, generation_step, ih, requests_concat]

theorem data_settle (cell : Cell Load Data) (outcome : Outcome Data) :
    (cell.settle (passedOn outcome)).data =
      match outcome with
      | .loaded data => some data
      | _ => cell.data := by
  cases outcome <;> rfl

theorem landed_step (system : System Load Data) (event : Event Load Data) (number : Nat) :
    (system.step event).Landed number ↔
      system.Landed number ∨ ∃ outcome, event = .land number outcome ∧ system.InFlight number := by
  cases event with
  | request serving load =>
      obtain ⟨task, pending, flights, requested⟩ := request_eq system serving load
      simp [step, requested, Landed]
  | ask query =>
      obtain ⟨waiting, answers, asked⟩ := ask_eq system query
      obtain ⟨task, pending, flights, started⟩ := start_eq system
      simp [step, asked, started, Landed]
  | land other outcome =>
      rw [step]
      by_cases flying : system.InFlight other
      · rw [landed_land flying]
        constructor
        · rintro (before | rfl)
          · exact .inl before
          · exact .inr ⟨outcome, rfl, flying⟩
        · rintro (before | ⟨_, same, -⟩)
          · exact .inl before
          · cases same
            exact .inr rfl
      · rw [land_of_not_inFlight flying]
        constructor
        · exact .inl
        · rintro (before | ⟨_, same, there⟩)
          · exact before
          · cases same
            exact absurd there flying
  | announce other =>
      obtain ⟨task, unannounced, reports, announced, -⟩ := announce_eq system other
      simp [step, announced, Landed]
  | resume query =>
      obtain ⟨waiting, answers, resumed⟩ := resume_eq system query
      simp [step, resumed, Landed]

theorem landed_run (events : List (Event Load Data)) (number : Nat) :
    (run {} events).Landed number ↔ Finished events number := by
  induction events using List.reverseRecOn with
  | nil => simp [Landed, Finished, Lands]
  | append_singleton events event ih =>
      rw [run_concat, landed_step, ih]
      constructor
      · rintro (⟨outcome, made, before⟩ | ⟨outcome, rfl, flying⟩)
        · exact ⟨outcome, made, (lands_concat events event number made outcome).mpr (.inl before)⟩
        · exact ⟨outcome, requests events,
            (lands_concat events _ number _ outcome).mpr (.inr ⟨rfl, flying, rfl⟩)⟩
      · rintro ⟨outcome, made, lands⟩
        rcases (lands_concat events event number made outcome).mp lands with
          before | ⟨rfl, flying, -⟩
        · exact .inl ⟨outcome, made, before⟩
        · exact .inr ⟨outcome, rfl, flying⟩

end System

/-- A value that was given before it was superseded, and by the newest load of that kind. -/
def Newest (events : List (Event Load Data)) (data : Data) : Prop :=
  ∃ number, Delivers events number data ∧
    ∀ other result, Delivers events other result → other ≤ number

theorem newest_of_delivery {events : List (Event Load Data)}
    (numbered : (System.run {} events).Numbered) {number : Nat}
    (flying : (System.run {} events).InFlight number) (newest : requests events = number)
    (data result : Data) :
    Newest (events ++ [.land number (.loaded data)]) result ↔ data = result := by
  have last (result : Data) (other : Nat) :=
    lands_concat events (.land number (.loaded data)) other other (.loaded result)
  have bounded : ∀ other result, Delivers events other result → other ≤ number :=
    fun other result earlier => newest ▸ earlier.made_le
  constructor
  · rintro ⟨other, delivers, greatest⟩
    rcases (last result other).mp delivers with earlier | ⟨same, -, -⟩
    · have atMost := bounded other result earlier
      have atLeast := greatest number data ((last data number).mpr (.inr ⟨rfl, flying, newest⟩))
      obtain rfl := Nat.le_antisymm atMost atLeast
      have landed := (System.landed_run events other).mpr ⟨_, _, earlier⟩
      exact absurd landed (numbered.apart other flying)
    · cases same
      rfl
  · rintro rfl
    refine ⟨number, (last data number).mpr (.inr ⟨rfl, flying, newest⟩), ?_⟩
    intro other result delivers
    rcases (last result other).mp delivers with earlier | ⟨same, -, -⟩
    · exact bounded other result earlier
    · cases same
      exact Nat.le_refl _

theorem newest_of_keep {events : List (Event Load Data)} {event : Event Load Data}
    (elsewhere : ∀ number data, event = .land number (.loaded data) →
      (System.run {} events).InFlight number → requests events ≠ number) (data : Data) :
    Newest (events ++ [event]) data ↔ Newest events data := by
  have same : ∀ number result,
      Delivers (events ++ [event]) number result ↔ Delivers events number result := by
    intro number result
    rw [Delivers, lands_concat]
    constructor
    · rintro (before | ⟨ends, flying, newest⟩)
      · exact before
      · exact absurd newest (elsewhere number result ends flying)
    · exact .inl
  simp only [Newest, same]

theorem Uncancelled.of_concat {events : List (Event Load Data)} {event : Event Load Data}
    (uncancelled : Uncancelled (events ++ [event])) : Uncancelled events :=
  fun number member => uncancelled number (List.mem_append_left _ member)

namespace System

theorem data_run {events : List (Event Load Data)} (uncancelled : Uncancelled events)
    (data : Data) : (run {} events).cell.data = some data ↔ Newest events data := by
  induction events using List.reverseRecOn with
  | nil => simp [Newest, Delivers, Lands]
  | append_singleton events event ih =>
      have earlier := ih uncancelled.of_concat
      have numbered := numbered_initial.run uncancelled.of_concat
      have generation := generation_run events
      have moves := moves_step (run {} events) event
      rw [run_concat]
      generalize ((run {} events).step event).cell = cell at moves
      cases moves with
      | request serving load task pending =>
          rw [newest_of_keep (by simp)]
          exact earlier
      | @settle number outcome flying newest =>
          rw [generation] at newest
          rw [data_settle]
          cases outcome with
          | loaded result => simp [newest_of_delivery numbered flying newest.symm]
          | failed failure =>
              rw [newest_of_keep (by simp)]
              exact earlier
          | cancelled =>
              rw [newest_of_keep (by simp)]
              exact earlier
      | keep unasked elsewhere task pending =>
          rw [newest_of_keep]
          · exact earlier
          · intro number result same flying newest
            exact elsewhere number _ same flying (generation ▸ newest.symm)

theorem data_step {system : System Load Data} (there : system.cell.data.isSome)
    (event : Event Load Data) : (system.step event).cell.data.isSome := by
  have moves := moves_step system event
  generalize (system.step event).cell = cell at moves
  cases moves with
  | request serving load task pending => exact there
  | settle outcome flying newest =>
      rw [data_settle]
      cases outcome with
      | loaded data => rfl
      | failed failure => exact there
      | cancelled => exact there
  | keep unasked elsewhere task pending => exact there

theorem data_run_of_isSome {system : System Load Data} (there : system.cell.data.isSome)
    (events : List (Event Load Data)) : (system.run events).cell.data.isSome := by
  induction events generalizing system with
  | nil => exact there
  | cons event events ih => exact ih (data_step there event)

theorem failure_step {system : System Load Data}
    (exclusive : system.cell.data.isSome → system.cell.failure = none) (event : Event Load Data) :
    (system.step event).cell.data.isSome → (system.step event).cell.failure = none := by
  have moves := moves_step system event
  generalize (system.step event).cell = cell at moves
  cases moves with
  | request serving load task pending => exact exclusive
  | settle outcome flying newest =>
      cases outcome with
      | loaded data => exact fun _ => rfl
      | failed failure =>
          intro there
          have before : system.cell.data.isSome := there
          have absent : system.cell.data.isNone = false := by simpa using before
          simp [passedOn, Cell.settle, absent, exclusive before]
      | cancelled => exact exclusive
  | keep unasked elsewhere task pending => exact exclusive

theorem failure_run (events : List (Event Load Data)) :
    (run {} events).cell.data.isSome → (run {} events).cell.failure = none := by
  induction events using List.reverseRecOn with
  | nil => simp
  | append_singleton events event ih =>
      rw [run_concat]
      exact failure_step ih event

theorem land_superseded {system : System Load Data} {number : Nat}
    (superseded : number < system.cell.generation) (outcome : Outcome Data) :
    (system.land number outcome).cell = system.cell := by
  by_cases flying : system.InFlight number
  · rw [cell_land flying, if_neg (Nat.ne_of_lt superseded)]
  · rw [land_of_not_inFlight flying]

end System

end Loading

end InputDeck
