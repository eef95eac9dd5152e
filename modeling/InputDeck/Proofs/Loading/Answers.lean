import InputDeck.Proofs.Loading.Supersession

/-!
The answers to queries.  A query that is asked when there is a value is answered at once or waits
for a load, and whatever happens meanwhile it is answered with a value when that load has ended.
-/

namespace InputDeck

namespace Loading

variable {Load Data : Type}

namespace System

/-- A query has a value for its answer, or gets one as soon as the load it waits for has ended. -/
def GivesData (system : System Load Data) (query : Nat) : Prop :=
  (∃ data, system.answer? query = some (.loaded data)) ∨
    ∃ number, ⟨query, number⟩ ∈ system.waiting ∧
      (system.InFlight number ∨
        ∃ data, (system.step (.resume query)).answer? query = some (.loaded data))

structure Unasked (query : Nat) (system : System Load Data) : Prop where
  waiting : ∀ waiter ∈ system.waiting, waiter.query ≠ query
  answers : ∀ answer ∈ system.answers, answer.query ≠ query

/-- A query that waits for one load and has no answer. -/
structure Awaits (query number : Nat) (system : System Load Data) : Prop where
  waits : ⟨query, number⟩ ∈ system.waiting
  only : ∀ waiter ∈ system.waiting, waiter.query = query → waiter.number = number
  answers : ∀ answer ∈ system.answers, answer.query ≠ query
  started : system.InFlight number ∨ system.Landed number

inductive Serves (system : System Load Data) :
    Event Load Data → List Waiter → List (Answer Data) → Prop
  | nothing {event : Event Load Data} (other : ∀ query, event ≠ .ask query) :
      Serves system event system.waiting system.answers
  | wait (query : Nat) {number : Nat} (task : system.start.cell.task = some number) :
      Serves system (.ask query) (system.waiting ++ [⟨query, number⟩]) system.answers
  | reply (query : Nat) {outcome : Outcome Data}
      (given : ∀ data, system.cell.data = some data → outcome = .loaded data) :
      Serves system (.ask query) system.waiting (system.answers ++ [⟨query, outcome⟩])
  | resume (query : Nat) (waits : ∃ waiter ∈ system.waiting, waiter.query = query)
      (outcome : Outcome Data) :
      Serves system (.resume query) (system.waiting.filter (fun waiter => waiter.query != query))
        (system.answers ++ [⟨query, outcome⟩])

theorem serves_ask (system : System Load Data) (query : Nat) :
    system.Serves (.ask query) (system.ask query).waiting (system.ask query).answers := by
  obtain ⟨task, pending, flights, started⟩ := start_eq system
  unfold ask
  rw [started]
  cases task with
  | some number => exact .wait query (by rw [started])
  | none =>
      cases there : system.cell.data with
      | some data => simpa [there, answer] using Serves.reply query (by simp [there])
      | none => simpa [there, answer] using Serves.reply query (by simp [there])

theorem serves_resume (system : System Load Data) (query : Nat) :
    system.Serves (.resume query) (system.resume query).waiting (system.resume query).answers := by
  unfold resume
  split
  · exact .nothing (by simp)
  · next waiter found =>
      have waits : ∃ waiter ∈ system.waiting, waiter.query = query :=
        ⟨waiter, List.mem_of_find?_eq_some found, by simpa using List.find?_some found⟩
      split
      · exact .nothing (by simp)
      · dsimp only
        split <;> exact .resume query waits _

theorem serves_step (system : System Load Data) (event : Event Load Data) :
    system.Serves event (system.step event).waiting (system.step event).answers := by
  cases event with
  | request serving load =>
      obtain ⟨task, pending, flights, requested⟩ := request_eq system serving load
      rw [step, requested]
      exact .nothing (by simp)
  | ask query => exact serves_ask system query
  | land number outcome =>
      rw [step]
      by_cases flying : system.InFlight number
      · obtain ⟨flight, -, landed⟩ := land_of_inFlight flying outcome
        rw [landed]
        exact .nothing (by simp)
      · rw [land_of_not_inFlight flying]
        exact .nothing (by simp)
  | announce number =>
      obtain ⟨task, unannounced, reports, announced, -⟩ := announce_eq system number
      rw [step, announced]
      exact .nothing (by simp)
  | resume query => exact serves_resume system query

variable {query number : Nat} {system : System Load Data}

theorem ne_of_mem_concat (answers : ∀ answer ∈ system.answers, answer.query ≠ query) {asked : Nat}
    (different : asked ≠ query) (outcome : Outcome Data) :
    ∀ answer ∈ system.answers ++ [⟨asked, outcome⟩], answer.query ≠ query := by
  intro answer member
  rcases List.mem_append.mp member with before | last
  · exact answers answer before
  · rw [List.mem_singleton.mp last]
    exact different

theorem Serves.unasked {event : Event Load Data} {waiting : List Waiter}
    {answers : List (Answer Data)} (serves : system.Serves event waiting answers)
    (other : event ≠ .ask query) (unasked : system.Unasked query) :
    (∀ waiter ∈ waiting, waiter.query ≠ query) ∧ ∀ answer ∈ answers, answer.query ≠ query := by
  cases serves with
  | nothing => exact ⟨unasked.waiting, unasked.answers⟩
  | wait asked task =>
      refine ⟨?_, unasked.answers⟩
      intro waiter member
      rcases List.mem_append.mp member with before | last
      · exact unasked.waiting waiter before
      · rw [List.mem_singleton.mp last]
        rintro rfl
        exact other rfl
  | reply asked given =>
      refine ⟨unasked.waiting, ne_of_mem_concat unasked.answers ?_ _⟩
      rintro rfl
      exact other rfl
  | resume asked waits outcome =>
      refine ⟨fun waiter member => unasked.waiting waiter (List.mem_filter.mp member).1,
        ne_of_mem_concat unasked.answers ?_ _⟩
      rintro rfl
      obtain ⟨waiter, member, same⟩ := waits
      exact unasked.waiting waiter member same

theorem Unasked.step (unasked : system.Unasked query) {event : Event Load Data}
    (other : event ≠ .ask query) : (system.step event).Unasked query := by
  obtain ⟨waiting, answers⟩ := (serves_step system event).unasked other unasked
  exact ⟨waiting, answers⟩

theorem Unasked.run (unasked : system.Unasked query) {events : List (Event Load Data)}
    (other : .ask query ∉ events) : (system.run events).Unasked query := by
  induction events generalizing system with
  | nil => exact unasked
  | cons event events ih =>
      rw [List.mem_cons, not_or] at other
      exact ih (unasked.step (Ne.symm other.1)) other.2

theorem answer?_of_concat (answers : ∀ answer ∈ system.answers, answer.query ≠ query)
    {next : System Load Data} {outcome : Outcome Data}
    (answered : next.answers = system.answers ++ [⟨query, outcome⟩]) :
    next.answer? query = some outcome := by
  have none : system.answers.find? (fun answer => answer.query == query) = none := by
    rw [List.find?_eq_none]
    intro answer member same
    exact answers answer member (by simpa using same)
  simp [answer?, answered, none]

theorem Awaits.answer?_resume (awaits : system.Awaits query number) (numbered : system.Numbered)
    (there : system.cell.data.isSome) (landed : system.Landed number) :
    ∃ data, (system.resume query).answer? query = some (.loaded data) := by
  cases found : system.waiting.find? (fun waiter => waiter.query == query) with
  | none =>
      rw [List.find?_eq_none] at found
      exact absurd (beq_self_eq_true query) (found _ awaits.waits)
  | some waiter =>
      have same := awaits.only waiter (List.mem_of_find?_eq_some found)
        (by simpa using List.find?_some found)
      cases ended : system.landing? number with
      | none => exact absurd landed ((landing?_eq_none_iff system number).mp ended)
      | some outcome =>
          cases outcome with
          | loaded data =>
              refine ⟨data, answer?_of_concat awaits.answers ?_⟩
              simp [resume, found, same, ended, answer]
          | failed failure =>
              obtain ⟨data, here⟩ := Option.isSome_iff_exists.mp there
              refine ⟨data, answer?_of_concat awaits.answers ?_⟩
              simp [resume, found, same, ended, answer, here]
          | cancelled =>
              obtain ⟨landing, member, -, called⟩ := mem_of_landing? ended
              exact absurd called (numbered.outcomes landing member)

theorem answer?_step {outcome : Outcome Data} (answered : system.answer? query = some outcome)
    (event : Event Load Data) : (system.step event).answer? query = some outcome := by
  have kept (more : List (Answer Data)) :
      ((system.answers ++ more).find? (fun answer => answer.query == query)).map (·.outcome) =
        some outcome := by
    obtain ⟨answer, found, rfl⟩ := Option.map_eq_some_iff.mp answered
    simp [List.find?_append, found]
  have serves := serves_step system event
  unfold answer?
  generalize (system.step event).waiting = waiting at serves
  generalize (system.step event).answers = answers at serves ⊢
  cases serves with
  | nothing => exact answered
  | wait asked task => exact answered
  | reply asked given => exact kept _
  | resume asked waits outcome => exact kept _

theorem inFlight_start (flying : system.InFlight number) : system.start.InFlight number := by
  obtain ⟨flight, member, rfl⟩ := flying
  cases pending : system.cell.pending with
  | none =>
      rw [start_of_idle pending]
      exact ⟨flight, member, rfl⟩
  | some load =>
      rw [start_of_pending pending]
      exact ⟨flight, List.mem_append_left _ member, rfl⟩

theorem started_step (started : system.InFlight number ∨ system.Landed number)
    (event : Event Load Data) :
    (system.step event).InFlight number ∨ (system.step event).Landed number := by
  rcases started with flying | landed
  · cases event with
    | request serving load =>
        rw [step, request]
        split
        · exact .inl (inFlight_start flying)
        · exact .inl flying
    | ask asked =>
        obtain ⟨waiting, answers, result⟩ := ask_eq system asked
        rw [step, result]
        exact .inl (inFlight_start flying)
    | land other outcome =>
        rw [step]
        by_cases there : system.InFlight other
        · by_cases same : number = other
          · exact .inr ((landed_land there outcome number).mpr (.inr same.symm))
          · exact .inl ((inFlight_land there outcome number).mpr ⟨flying, same⟩)
        · rw [land_of_not_inFlight there]
          exact .inl flying
    | announce other =>
        obtain ⟨task, unannounced, reports, announced, -⟩ := announce_eq system other
        rw [step, announced]
        exact .inl flying
    | resume asked =>
        obtain ⟨waiting, answers, resumed⟩ := resume_eq system asked
        rw [step, resumed]
        exact .inl flying
  · exact .inr ((landed_step system event number).mpr (.inl landed))

theorem Awaits.resume_of_not_landed (awaits : system.Awaits query number)
    (unended : ¬ system.Landed number) : system.resume query = system := by
  cases found : system.waiting.find? (fun waiter => waiter.query == query) with
  | none => simp [resume, found]
  | some waiter =>
      have same := awaits.only waiter (List.mem_of_find?_eq_some found)
        (by simpa using List.find?_some found)
      have none := (landing?_eq_none_iff system number).mpr unended
      simp [resume, found, same, none]

theorem Serves.awaits {event : Event Load Data} {waiting : List Waiter}
    {answers : List (Answer Data)} (serves : system.Serves event waiting answers)
    (unasked : event ≠ .ask query) (unresumed : event ≠ .resume query)
    (awaits : system.Awaits query number) :
    ⟨query, number⟩ ∈ waiting ∧
      (∀ waiter ∈ waiting, waiter.query = query → waiter.number = number) ∧
      ∀ answer ∈ answers, answer.query ≠ query := by
  cases serves with
  | nothing => exact ⟨awaits.waits, awaits.only, awaits.answers⟩
  | wait asked task =>
      refine ⟨List.mem_append_left _ awaits.waits, ?_, awaits.answers⟩
      intro waiter member same
      rcases List.mem_append.mp member with before | last
      · exact awaits.only waiter before same
      · rw [List.mem_singleton.mp last] at same
        exact absurd (congrArg _ same) unasked
  | reply asked given =>
      refine ⟨awaits.waits, awaits.only, ne_of_mem_concat awaits.answers ?_ _⟩
      rintro rfl
      exact unasked rfl
  | resume asked waits outcome =>
      have different : asked ≠ query := by
        rintro rfl
        exact unresumed rfl
      refine ⟨List.mem_filter.mpr ⟨awaits.waits, by simpa using different.symm⟩, ?_,
        ne_of_mem_concat awaits.answers different _⟩
      exact fun waiter member => awaits.only waiter (List.mem_filter.mp member).1

theorem Awaits.step (awaits : system.Awaits query number) (numbered : system.Numbered)
    (there : system.cell.data.isSome) {event : Event Load Data} (unasked : event ≠ .ask query) :
    (system.step event).Awaits query number ∨
      ∃ data, (system.step event).answer? query = some (.loaded data) := by
  by_cases resumed : event = .resume query
  · subst resumed
    by_cases landed : system.Landed number
    · exact .inr (awaits.answer?_resume numbered there landed)
    · left
      rwa [System.step, awaits.resume_of_not_landed landed]
  · obtain ⟨waits, only, answers⟩ := (serves_step system event).awaits unasked resumed awaits
    exact .inl ⟨waits, only, answers, started_step awaits.started event⟩

theorem pending_start (system : System Load Data) : system.start.cell.pending = none := by
  cases pending : system.cell.pending with
  | none => rw [start_of_idle pending, pending]
  | some load => rw [start_of_pending pending]

/-- A query has been answered with a value, or waits. -/
def Served (system : System Load Data) (query : Nat) : Prop :=
  (∃ number, system.Awaits query number) ∨
    ∃ data, system.answer? query = some (.loaded data)

theorem served_ask (unasked : system.Unasked query) (numbered : system.Numbered)
    (there : system.cell.data.isSome) : (system.ask query).Served query := by
  have flying : ∀ number, system.start.InFlight number → (system.ask query).InFlight number := by
    obtain ⟨waiting, answers, asked⟩ := ask_eq system query
    rw [asked]
    exact fun number flying => flying
  have serves := serves_ask system query
  generalize queue : (system.ask query).waiting = waiting at serves
  generalize given : (system.ask query).answers = answers at serves
  cases serves with
  | nothing other => exact absurd rfl (other query)
  | @wait _ number task =>
      obtain ⟨-, -, started⟩ := numbered.start.task system.pending_start number task
      refine .inl ⟨number, ?_, ?_, given ▸ unasked.answers, .inl (flying number started)⟩
      · rw [queue]
        exact List.mem_append_right _ List.mem_cons_self
      · rw [queue]
        intro waiter member same
        rcases List.mem_append.mp member with before | last
        · exact absurd same (unasked.waiting waiter before)
        · rw [List.mem_singleton.mp last]
  | reply _ value =>
      obtain ⟨data, here⟩ := Option.isSome_iff_exists.mp there
      obtain rfl := value data here
      exact .inr ⟨data, answer?_of_concat unasked.answers given⟩

theorem Served.step (served : system.Served query) (numbered : system.Numbered)
    (there : system.cell.data.isSome) {event : Event Load Data} (unasked : event ≠ .ask query) :
    (system.step event).Served query := by
  rcases served with ⟨number, awaits⟩ | ⟨data, answered⟩
  · rcases awaits.step numbered there unasked with still | answered
    · exact .inl ⟨number, still⟩
    · exact .inr answered
  · exact .inr ⟨data, answer?_step answered event⟩

theorem Served.run (served : system.Served query) (numbered : system.Numbered)
    (there : system.cell.data.isSome) {events : List (Event Load Data)}
    (uncancelled : Uncancelled events) (unasked : .ask query ∉ events) :
    (system.run events).Served query := by
  induction events generalizing system with
  | nil => exact served
  | cons event events ih =>
      rw [List.mem_cons, not_or] at unasked
      rw [uncancelled_cons] at uncancelled
      exact ih (served.step numbered there (Ne.symm unasked.1)) (numbered.step uncancelled.1)
        (data_step there event) uncancelled.2 unasked.2

theorem Served.givesData (served : system.Served query) (numbered : system.Numbered)
    (there : system.cell.data.isSome) : system.GivesData query := by
  rcases served with ⟨number, awaits⟩ | answered
  · refine .inr ⟨number, awaits.waits, ?_⟩
    rcases awaits.started with flying | landed
    · exact .inl flying
    · exact .inr (awaits.answer?_resume numbered there landed)
  · exact .inl answered

end System

/-- What holds of a cell after some events. -/
structure Safe (events : List (Event Load Data)) : Prop where
  /-- The value is that of the newest load that gave one before it was superseded. -/
  newest : ∀ data, (System.run {} events).cell.data = some data ↔
    ∃ number, Delivers events number data ∧
      ∀ other result, Delivers events other result → other ≤ number
  /-- The end of a superseded load, and its announcement, leave the cell as it is. -/
  superseded : ∀ number < requests events, ∀ outcome,
    ((System.run {} events).step (.land number outcome)).cell = (System.run {} events).cell ∧
      ((System.run {} events).step (.announce number)).cell = (System.run {} events).cell
  kept : (System.run {} events).cell.data.isSome → ∀ later, Uncancelled later →
    (System.run {} (events ++ later)).cell.data.isSome ∧
      ∀ query, .ask query ∉ events → .ask query ∉ later →
        (System.run {} (events ++ .ask query :: later)).GivesData query
  exclusive : ¬ ((System.run {} events).cell.data.isSome ∧
    (System.run {} events).cell.failure.isSome)
  loading : (System.run {} events).cell.phase = .loading ↔
    0 < requests events ∧ ¬ Finished events (requests events)

theorem safe_of_uncancelled (events : List (Event Load Data)) (uncancelled : Uncancelled events) :
    Safe events where
  newest := System.data_run uncancelled
  superseded := by
    intro number older outcome
    rw [← System.generation_run] at older
    obtain ⟨unannounced, reports, announced⟩ :=
      (System.numbered_initial.run uncancelled).announce_eq number
    exact ⟨System.land_superseded older outcome, by rw [System.step, announced]⟩
  kept := by
    intro there later still
    have numbered := System.numbered_initial.run uncancelled
    rw [System.run_append]
    refine ⟨System.data_run_of_isSome there later, ?_⟩
    intro query before after
    have fresh : (System.run {} events).Unasked query :=
      System.Unasked.run ⟨by simp, by simp⟩ before
    have served := System.served_ask fresh numbered there
    have asked := numbered.ask query
    have kept := System.data_step there (.ask query)
    rw [System.run_append, System.run_cons]
    exact (served.run asked kept still after).givesData (asked.run still)
      (System.data_run_of_isSome kept later)
  exclusive := by
    rintro ⟨there, failed⟩
    rw [System.failure_run events there] at failed
    cases failed
  loading := by
    rw [(System.numbered_initial.run uncancelled).loading_iff, System.generation_run,
      System.landed_run]

def overtaking : List (Event Unit Nat) :=
  [.request false (), .request true (), .ask 0, .request true (), .land 3 (.loaded 30),
    .land 2 (.loaded 20), .resume 0, .request true (), .ask 1, .land 4 (.failed .undecodable),
    .announce 4, .resume 1]

theorem overtaking_safe :
    Uncancelled overtaking ∧ Safe overtaking ∧
      (System.run {} overtaking).cell.data = some 30 ∧
      (System.run {} overtaking).answers = [⟨0, .loaded 20⟩, ⟨1, .loaded 30⟩] := by
  have uncancelled : Uncancelled overtaking := by simp [Uncancelled, overtaking]
  exact ⟨uncancelled, safe_of_uncancelled overtaking uncancelled, by decide, by decide⟩

end Loading

end InputDeck
