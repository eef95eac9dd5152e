import InputDeck.Proofs.Loading.Supersession

/-!
How loads are started.  An event makes at most one request and starts at most one load: that of the
request it makes, or one whose request was put off before.  So a history has a ledger of what was
requested and what was started, and no request is started twice.
-/

namespace InputDeck

namespace Loading

variable {Load Data : Type}

def Event.load? : Event Load Data → Option Load
  | .request _ load => some load
  | _ => none

namespace System

/-- The loads that have been started between two states; they join those in flight at the end. -/
def startedUntil (system next : System Load Data) : List (Flight Load) :=
  next.flights.drop system.flights.length

inductive Turns (system next : System Load Data) : Option Load → List (Flight Load) → Prop
  | kept (generation : next.cell.generation = system.cell.generation)
      (pending : next.cell.pending = system.cell.pending) : Turns system next none []
  | started {load : Load} (generation : next.cell.generation = system.cell.generation)
      (waited : system.cell.pending = some load) (pending : next.cell.pending = none) :
      Turns system next none [⟨system.cell.generation, load⟩]
  | deferred {load : Load} (generation : next.cell.generation = system.cell.generation + 1)
      (pending : next.cell.pending = some load) : Turns system next (some load) []
  | requested {load : Load} (generation : next.cell.generation = system.cell.generation + 1)
      (pending : next.cell.pending = none) :
      Turns system next (some load) [⟨system.cell.generation + 1, load⟩]

variable {system next : System Load Data}

theorem turns_of_flights (flights : next.flights.length ≤ system.flights.length)
    (generation : next.cell.generation = system.cell.generation)
    (pending : next.cell.pending = system.cell.pending) :
    Turns system next none (system.startedUntil next) := by
  rw [startedUntil, List.drop_eq_nil_of_le flights]
  exact .kept generation pending

theorem turns_request (serving : Bool) (load : Load) :
    Turns system (system.request serving load) (some load)
      (system.startedUntil (system.request serving load)) := by
  cases serving with
  | false =>
      have nothing : system.startedUntil (system.request false load) = [] := List.drop_length
      rw [nothing]
      exact .deferred rfl rfl
  | true =>
      have new : system.startedUntil (system.request true load) =
          [⟨system.cell.generation + 1, load⟩] := List.drop_left
      rw [new]
      exact .requested rfl rfl

theorem turns_start (waiting : List Waiter) (answers : List (Answer Data)) :
    Turns system { system.start with waiting, answers } none
      (system.startedUntil { system.start with waiting, answers }) := by
  cases pending : system.cell.pending with
  | none =>
      rw [start_of_idle pending]
      exact turns_of_flights (Nat.le_refl _) rfl rfl
  | some load =>
      rw [start_of_pending pending, startedUntil, List.drop_left]
      exact .started rfl pending rfl

theorem length_flights_land_le (system : System Load Data) (number : Nat)
    (outcome : Outcome Data) :
    (system.land number outcome).flights.length ≤ system.flights.length := by
  by_cases flying : system.InFlight number
  · obtain ⟨flight, -, landed⟩ := land_of_inFlight flying outcome
    rw [landed]
    exact List.length_filter_le _ _
  · exact Nat.le_of_eq (congrArg (·.flights.length) (land_of_not_inFlight flying outcome))

theorem turns_step (system : System Load Data) (event : Event Load Data) :
    Turns system (system.step event) event.load? (system.startedUntil (system.step event)) := by
  cases event with
  | request serving load => exact turns_request serving load
  | ask query =>
      obtain ⟨waiting, answers, asked⟩ := ask_eq system query
      rw [step, asked]
      exact turns_start waiting answers
  | land number outcome =>
      have kept : (system.land number outcome).cell.generation = system.cell.generation ∧
          (system.land number outcome).cell.pending = system.cell.pending := by
        by_cases flying : system.InFlight number
        · rw [cell_land flying]
          split
          · exact ⟨Cell.generation_settle _ _, Cell.pending_settle _ _⟩
          · exact ⟨rfl, rfl⟩
        · rw [land_of_not_inFlight flying]
          exact ⟨rfl, rfl⟩
      exact turns_of_flights (length_flights_land_le system number outcome) kept.1 kept.2
  | announce number =>
      obtain ⟨task, unannounced, reports, announced, -⟩ := announce_eq system number
      rw [step, announced]
      exact turns_of_flights (Nat.le_refl _) rfl rfl
  | resume query =>
      obtain ⟨waiting, answers, resumed⟩ := resume_eq system query
      rw [step, resumed]
      exact turns_of_flights (Nat.le_refl _) rfl rfl

/-- What has been requested and started so far, in turn.  The requests are numbered from one. -/
structure Ledger (system : System Load Data) (requests : List Load) (starts : List (Flight Load)) :
    Prop where
  counted : system.cell.generation = requests.length
  deferred : ∀ load, system.cell.pending = some load → requests.getLast? = some load
  once : starts.Pairwise (fun one other => one.number < other.number)
  requested : ∀ flight ∈ starts,
    0 < flight.number ∧ requests[flight.number - 1]? = some flight.load
  unstarted : system.cell.pending ≠ none → ∀ flight ∈ starts, flight.number ≠ requests.length

namespace Ledger

variable {requests : List Load} {starts : List (Flight Load)}

theorem number_le (ledger : system.Ledger requests starts) {flight : Flight Load}
    (member : flight ∈ starts) : flight.number ≤ requests.length := by
  obtain ⟨positive, there⟩ := ledger.requested flight member
  have inside := (List.getElem?_eq_some_iff.mp there).1
  omega

theorem requested_concat (ledger : system.Ledger requests starts) (load : Load) :
    ∀ flight ∈ starts,
      0 < flight.number ∧ (requests ++ [load])[flight.number - 1]? = some flight.load := by
  intro flight member
  obtain ⟨positive, there⟩ := ledger.requested flight member
  have inside := (List.getElem?_eq_some_iff.mp there).1
  exact ⟨positive, by rw [List.getElem?_append_left inside, there]⟩

theorem once_concat (ledger : system.Ledger requests starts) {number : Nat} {load : Load}
    (newer : ∀ flight ∈ starts, flight.number < number) :
    (starts ++ [(⟨number, load⟩ : Flight Load)]).Pairwise
      (fun one other => one.number < other.number) := by
  refine List.pairwise_append.mpr ⟨ledger.once, List.pairwise_singleton _ _, ?_⟩
  intro flight member other here
  obtain rfl := List.mem_singleton.mp here
  exact newer flight member

theorem step (ledger : system.Ledger requests starts) {load? : Option Load}
    {new : List (Flight Load)} (turns : system.Turns next load? new) :
    next.Ledger (requests ++ load?.toList) (starts ++ new) := by
  have older : ∀ flight ∈ starts, flight.number < requests.length + 1 :=
    fun flight member => Nat.lt_succ_of_le (ledger.number_le member)
  cases turns with
  | kept generation pending =>
      simp only [Option.toList_none, List.append_nil]
      refine ⟨generation.trans ledger.counted, ?_, ledger.once, ledger.requested, ?_⟩
      · rw [pending]
        exact ledger.deferred
      · rw [pending]
        exact ledger.unstarted
  | @started load generation waited pending =>
      have last := ledger.deferred load waited
      have unstarted := ledger.unstarted (by simp [waited])
      have newer : ∀ flight ∈ starts, flight.number < system.cell.generation := by
        intro flight member
        rw [ledger.counted]
        exact Nat.lt_of_le_of_ne (ledger.number_le member) (unstarted flight member)
      have nonempty : requests ≠ [] := by
        rintro rfl
        simp at last
      have positive := List.length_pos_iff.mpr nonempty
      simp only [Option.toList_none, List.append_nil]
      refine ⟨generation.trans ledger.counted, by simp [pending], ledger.once_concat newer, ?_,
        by simp [pending]⟩
      intro flight member
      rcases List.mem_append.mp member with before | here
      · exact ledger.requested flight before
      · obtain rfl := List.mem_singleton.mp here
        rw [ledger.counted]
        exact ⟨positive, by rw [← List.getLast?_eq_getElem?, last]⟩
  | @deferred load generation pending =>
      simp only [Option.toList_some, List.append_nil]
      refine ⟨by rw [generation, ledger.counted, List.length_append, List.length_singleton],
        by simp [pending], ledger.once, ledger.requested_concat load, ?_⟩
      intro _ flight member
      rw [List.length_append, List.length_singleton]
      exact Nat.ne_of_lt (older flight member)
  | @requested load generation pending =>
      rw [ledger.counted]
      simp only [Option.toList_some]
      refine ⟨by rw [generation, ledger.counted, List.length_append, List.length_singleton],
        by simp [pending], ledger.once_concat older, ?_, by simp [pending]⟩
      intro flight member
      rcases List.mem_append.mp member with before | here
      · exact ledger.requested_concat load flight before
      · obtain rfl := List.mem_singleton.mp here
        exact ⟨Nat.succ_pos _, by simp⟩

end Ledger

def executed (system : System Load Data) : List (Flight Load) :=
  system.landings.map (·.toFlight) ++ system.flights

theorem executed_land (numbers : (system.executed.map (·.number)).Nodup) (number : Nat)
    (outcome : Outcome Data) : (system.land number outcome).executed.Perm system.executed := by
  cases found : system.flights.find? (fun flight => flight.number == number) with
  | none =>
      rw [land, found]
  | some flight =>
      obtain ⟨same, before, after, split, others⟩ := List.find?_eq_some_iff_append.mp found
      rw [executed, List.map_append, split, List.map_append, List.map_cons] at numbers
      have apart := (List.nodup_append.mp (List.nodup_append.mp numbers).2.1).2.1
      have later : ∀ other ∈ after, other.number != number := by
        intro other member
        have different := (List.nodup_cons.mp apart).1
        rw [eq_of_beq same] at different
        exact bne_iff_ne.mpr fun equal => different (List.mem_map.mpr ⟨other, member, equal⟩)
      have left : system.flights.filter (fun other => other.number != number) =
          before ++ after := by
        rw [split, List.filter_append, List.filter_cons_of_neg (by simpa using same),
          List.filter_eq_self.mpr later]
        exact congrArg (· ++ after) (List.filter_eq_self.mpr others)
      rw [land, found]
      dsimp only [executed]
      rw [left, split, List.map_append, List.append_assoc]
      have moved : (flight :: (before ++ after)).Perm (before ++ flight :: after) :=
        List.perm_middle.symm
      exact moved.append_left _

theorem executed_step (numbers : (system.executed.map (·.number)).Nodup) (event : Event Load Data) :
    (system.step event).executed.Perm
      (system.executed ++ system.startedUntil (system.step event)) := by
  have same {next : System Load Data} (landings : next.landings = system.landings)
      (new : List (Flight Load)) (flights : next.flights = system.flights ++ new) :
      next.executed.Perm (system.executed ++ system.startedUntil next) := by
    simp [executed, startedUntil, landings, flights]
  cases event with
  | request serving load =>
      cases serving with
      | false => exact same rfl [] (List.append_nil _).symm
      | true => exact same rfl _ rfl
  | ask query =>
      obtain ⟨waiting, answers, asked⟩ := ask_eq system query
      rw [step, asked]
      cases pending : system.cell.pending with
      | none =>
          rw [start_of_idle pending]
          exact same rfl [] (List.append_nil _).symm
      | some load =>
          rw [start_of_pending pending]
          exact same rfl _ rfl
  | land number outcome =>
      have nothing : system.startedUntil (system.land number outcome) = [] :=
        List.drop_eq_nil_of_le (length_flights_land_le system number outcome)
      rw [step, nothing, List.append_nil]
      exact executed_land numbers number outcome
  | announce number =>
      obtain ⟨task, unannounced, reports, announced, -⟩ := announce_eq system number
      rw [step, announced]
      exact same rfl [] (List.append_nil _).symm
  | resume query =>
      obtain ⟨waiting, answers, resumed⟩ := resume_eq system query
      rw [step, resumed]
      exact same rfl [] (List.append_nil _).symm

end System

end Loading

end InputDeck
