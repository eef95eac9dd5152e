import InputDeck.Proofs.Loading.Numbers

/-!
Two runs that differ only in how a superseded load failed.  The cell, the loads and the queries that
wait stay the same in both, and so do the answers and the reports, save where a query that waited
for this load goes on while there is no value.
-/

namespace InputDeck

namespace Loading

open Schema (Failure)

variable {Load Data : Type}

namespace System

/-- Two systems that are alike but for the failure of one superseded load, and for what has been
said about it. -/
structure Twins (number : Nat) (first second : Failure) (one two : System Load Data) : Prop where
  cell : two.cell = one.cell
  flights : two.flights = one.flights
  unannounced : two.unannounced = one.unannounced
  waiting : two.waiting = one.waiting
  others : ∀ other, other ≠ number → two.landing? other = one.landing? other
  mine : one.landing? number = some (.failed first)
  yours : two.landing? number = some (.failed second)
  superseded : number < one.cell.generation
  grounded : ¬ one.InFlight number

def SpeakAlike (one two nextOne nextTwo : System Load Data) : Prop :=
  ∃ answers reports,
    nextOne.answers = one.answers ++ answers ∧ nextTwo.answers = two.answers ++ answers ∧
    nextOne.reports = one.reports ++ reports ∧ nextTwo.reports = two.reports ++ reports

theorem speakAlike_silent {one two nextOne nextTwo : System Load Data}
    (answersOne : nextOne.answers = one.answers) (answersTwo : nextTwo.answers = two.answers)
    (reportsOne : nextOne.reports = one.reports) (reportsTwo : nextTwo.reports = two.reports) :
    SpeakAlike one two nextOne nextTwo :=
  ⟨[], [], by simp [answersOne], by simp [answersTwo], by simp [reportsOne], by simp [reportsTwo]⟩

theorem SpeakAlike.answer?_eq {one two nextOne nextTwo : System Load Data}
    (alike : SpeakAlike one two nextOne nextTwo) {query : Nat}
    (openOne : ∀ answer ∈ one.answers, answer.query ≠ query)
    (openTwo : ∀ answer ∈ two.answers, answer.query ≠ query) :
    nextTwo.answer? query = nextOne.answer? query := by
  have noneOne : one.answers.find? (fun answer => answer.query == query) = none := by
    simpa [List.find?_eq_none] using openOne
  have noneTwo : two.answers.find? (fun answer => answer.query == query) = none := by
    simpa [List.find?_eq_none] using openTwo
  obtain ⟨answers, reports, givenOne, givenTwo, -, -⟩ := alike
  simp [answer?, givenOne, givenTwo, noneOne, noneTwo]

theorem landing?_land {system : System Load Data} {number : Nat} (flying : system.InFlight number)
    (outcome : Outcome Data) (other : Nat) :
    (system.land number outcome).landing? other =
      (system.landing? other).or (if number = other then some (passedOn outcome) else none) := by
  obtain ⟨flight, rfl, landed⟩ := land_of_inFlight flying outcome
  rw [landed]
  by_cases same : flight.number = other
  · simp only [landing?, List.find?_append, same, List.find?_cons, beq_self_eq_true, if_true]
    cases system.landings.find? (fun landing => landing.number == other) <;> rfl
  · simp [landing?, List.find?_append, same]

theorem announce_of_mem {system : System Load Data} {number : Nat}
    (listed : number ∈ system.unannounced) :
    system.announce number =
      let unannounced := system.unannounced.erase number
      match system.landing? number with
      | some .cancelled =>
          if system.cell.task = some number then
            { system with cell := { system.cell with task := none }, unannounced }
          else
            { system with unannounced }
      | some (.failed failure) =>
          if number = system.cell.generation then
            { system with unannounced, reports := system.reports ++ [failure] }
          else
            { system with unannounced }
      | some (.loaded _) | none => { system with unannounced } := by
  have contained : system.unannounced.contains number = true := List.contains_iff_mem.mpr listed
  simp only [announce, contained, if_true]
  rfl

def told (system : System Load Data) (number : Nat) : Option (Outcome Data) :=
  (system.landing? number).map fun outcome =>
    match outcome, system.cell.data with
    | .failed _, some data => .loaded data
    | outcome, _ => outcome

theorem resume_of_find {system : System Load Data} {query : Nat} {waiter : Waiter}
    (found : system.waiting.find? (fun waiter => waiter.query == query) = some waiter) :
    system.resume query =
      match system.told waiter.number with
      | none => system
      | some outcome =>
          { system with
            waiting := system.waiting.filter (fun waiter => waiter.query != query),
            answers := system.answers ++ [⟨query, outcome⟩] } := by
  simp only [resume, found, told]
  cases system.landing? waiter.number with
  | none => rfl
  | some outcome =>
      simp only [Option.map_some]
      cases outcome <;> cases system.cell.data <;> rfl

/-- A query waits for a load while there is no value that it could be given instead. -/
def Exposed (system : System Load Data) (query number : Nat) : Prop :=
  system.waiting.find? (fun waiter => waiter.query == query) = some ⟨query, number⟩ ∧
    system.cell.data = none

namespace Twins

variable {number : Nat} {first second : Failure} {one two : System Load Data}

theorem frame (twins : Twins number first second one two) {unannouncedOne unannouncedTwo : List Nat}
    {waitingOne waitingTwo : List Waiter} (unannounced : unannouncedTwo = unannouncedOne)
    (waiting : waitingTwo = waitingOne) (answersOne answersTwo : List (Answer Data))
    (reportsOne reportsTwo : List Failure) :
    Twins number first second
      { one with
        unannounced := unannouncedOne, waiting := waitingOne, answers := answersOne,
        reports := reportsOne }
      { two with
        unannounced := unannouncedTwo, waiting := waitingTwo, answers := answersTwo,
        reports := reportsTwo } :=
  ⟨twins.cell, twins.flights, unannounced, waiting, twins.others, twins.mine, twins.yours,
    twins.superseded, twins.grounded⟩

theorem start (twins : Twins number first second one two) :
    Twins number first second one.start two.start ∧ SpeakAlike one two one.start two.start := by
  cases pending : one.cell.pending with
  | none =>
      rw [start_of_idle pending, start_of_idle (twins.cell ▸ pending)]
      exact ⟨twins, speakAlike_silent rfl rfl rfl rfl⟩
  | some load =>
      rw [start_of_pending pending, start_of_pending (twins.cell ▸ pending)]
      refine ⟨⟨?_, ?_, twins.unannounced, twins.waiting, twins.others, twins.mine, twins.yours,
        twins.superseded, ?_⟩, speakAlike_silent rfl rfl rfl rfl⟩
      · simp only [twins.cell]
      · simp only [twins.cell, twins.flights]
      · rintro ⟨flight, member, same⟩
        rcases List.mem_append.mp member with earlier | last
        · exact twins.grounded ⟨flight, earlier, same⟩
        · obtain rfl := List.mem_singleton.mp last
          exact absurd twins.superseded (by simp only at same; omega)

theorem request (twins : Twins number first second one two) (serving : Bool) (load : Load) :
    Twins number first second (one.request serving load) (two.request serving load) ∧
      SpeakAlike one two (one.request serving load) (two.request serving load) := by
  have recorded : Twins number first second
      { one with cell := { one.cell with
        generation := one.cell.generation + 1, pending := some load } }
      { two with cell := { two.cell with
        generation := two.cell.generation + 1, pending := some load } } := by
    refine ⟨?_, twins.flights, twins.unannounced, twins.waiting, twins.others, twins.mine,
      twins.yours, Nat.lt_succ_of_lt twins.superseded, twins.grounded⟩
    simp only [twins.cell]
  cases serving with
  | false => exact ⟨recorded, speakAlike_silent rfl rfl rfl rfl⟩
  | true => exact recorded.start

theorem ask (twins : Twins number first second one two) (query : Nat) :
    Twins number first second (one.ask query) (two.ask query) ∧
      SpeakAlike one two (one.ask query) (two.ask query) := by
  obtain ⟨started, -⟩ := twins.start
  have silentOne : one.start.answers = one.answers ∧ one.start.reports = one.reports := by
    obtain ⟨task, pending, flights, same⟩ := start_eq one
    rw [same]
    exact ⟨rfl, rfl⟩
  have silentTwo : two.start.answers = two.answers ∧ two.start.reports = two.reports := by
    obtain ⟨task, pending, flights, same⟩ := start_eq two
    rw [same]
    exact ⟨rfl, rfl⟩
  have replies (outcome : Outcome Data) :
      Twins number first second (one.start.answer query outcome)
        (two.start.answer query outcome) ∧
      SpeakAlike one two (one.start.answer query outcome) (two.start.answer query outcome) :=
    ⟨started.frame started.unannounced started.waiting _ _ _ _, [⟨query, outcome⟩], [],
      by simp [answer, silentOne], by simp [answer, silentTwo], by simp [answer, silentOne],
      by simp [answer, silentTwo]⟩
  cases task : one.start.cell.task with
  | some waits =>
      have taskTwo : two.start.cell.task = some waits := by rw [started.cell, task]
      have waiting : two.start.waiting ++ [⟨query, waits⟩] =
          one.start.waiting ++ [⟨query, waits⟩] := by
        rw [started.waiting]
      simp only [System.ask, task, taskTwo]
      exact ⟨started.frame started.unannounced waiting _ _ _ _,
        speakAlike_silent silentOne.1 silentTwo.1 silentOne.2 silentTwo.2⟩
  | none =>
      have taskTwo : two.start.cell.task = none := by rw [started.cell, task]
      have dataTwo : two.start.cell.data = one.start.cell.data := by rw [started.cell]
      have failureTwo : two.start.cell.failure = one.start.cell.failure := by rw [started.cell]
      simp only [System.ask, task, taskTwo, dataTwo, failureTwo]
      split <;> exact replies _

theorem land (twins : Twins number first second one two) (other : Nat) (outcome : Outcome Data) :
    Twins number first second (one.land other outcome) (two.land other outcome) ∧
      SpeakAlike one two (one.land other outcome) (two.land other outcome) := by
  by_cases flying : one.InFlight other
  · have flyingTwo : two.InFlight other := by
      rw [InFlight, twins.flights]
      exact flying
    have different : other ≠ number := by
      rintro rfl
      exact twins.grounded flying
    have landingOne := landing?_land flying outcome
    have landingTwo := landing?_land flyingTwo outcome
    have still := inFlight_land flying outcome
    have cellOne := cell_land flying outcome
    have cellTwo := cell_land flyingTwo outcome
    obtain ⟨flightOne, -, landedOne⟩ := land_of_inFlight flying outcome
    obtain ⟨flightTwo, -, landedTwo⟩ := land_of_inFlight flyingTwo outcome
    refine ⟨⟨?_, ?_, ?_, ?_, ?_, ?_, ?_, ?_, ?_⟩, ?_⟩
    · rw [cellOne, cellTwo, twins.cell]
    · rw [landedOne, landedTwo]
      simp only [twins.flights]
    · rw [landedOne, landedTwo]
      simp only [twins.unannounced]
    · rw [landedOne, landedTwo]
      exact twins.waiting
    · intro load apart
      rw [landingOne, landingTwo, twins.others load apart]
    · rw [landingOne, twins.mine]
      rfl
    · rw [landingTwo, twins.yours]
      rfl
    · rw [cellOne]
      split
      · rw [Cell.generation_settle]
        exact twins.superseded
      · exact twins.superseded
    · exact fun there => twins.grounded ((still number).mp there).1
    · rw [landedOne, landedTwo]
      exact speakAlike_silent rfl rfl rfl rfl
  · have flyingTwo : ¬ two.InFlight other := by
      rw [InFlight, twins.flights]
      exact flying
    rw [land_of_not_inFlight flying, land_of_not_inFlight flyingTwo]
    exact ⟨twins, speakAlike_silent rfl rfl rfl rfl⟩

theorem announce (twins : Twins number first second one two) (other : Nat) :
    Twins number first second (one.announce other) (two.announce other) ∧
      SpeakAlike one two (one.announce other) (two.announce other) := by
  have same : two.unannounced.erase other = one.unannounced.erase other := by
    rw [twins.unannounced]
  have framed (reports : List Failure) :
      Twins number first second
        { one with
          unannounced := one.unannounced.erase other, reports := one.reports ++ reports }
        { two with
          unannounced := two.unannounced.erase other, reports := two.reports ++ reports } ∧
      SpeakAlike one two
        { one with
          unannounced := one.unannounced.erase other, reports := one.reports ++ reports }
        { two with
          unannounced := two.unannounced.erase other, reports := two.reports ++ reports } :=
    ⟨twins.frame same twins.waiting _ _ _ _, [], reports, by simp, by simp, rfl, rfl⟩
  have silent := framed []
  simp only [List.append_nil] at silent
  by_cases listed : other ∈ one.unannounced
  · have listedTwo : other ∈ two.unannounced := twins.unannounced ▸ listed
    have generation : two.cell.generation = one.cell.generation := by rw [twins.cell]
    have task : two.cell.task = one.cell.task := by rw [twins.cell]
    rw [announce_of_mem listed, announce_of_mem listedTwo, generation, task]
    by_cases mine : other = number
    · subst mine
      have older : other ≠ one.cell.generation := Nat.ne_of_lt twins.superseded
      simpa only [twins.mine, twins.yours, older, if_false] using silent
    · rw [twins.others other mine]
      cases one.landing? other with
      | none => exact silent
      | some outcome =>
          cases outcome with
          | loaded data => exact silent
          | failed failure =>
              dsimp only
              split
              · exact framed [failure]
              · exact silent
          | cancelled =>
              dsimp only
              split
              · exact ⟨⟨by simp only [twins.cell], twins.flights, same, twins.waiting, twins.others,
                  twins.mine, twins.yours, twins.superseded, twins.grounded⟩,
                  speakAlike_silent rfl rfl rfl rfl⟩
              · exact silent
  · have listedTwo : other ∉ two.unannounced := twins.unannounced ▸ listed
    simp only [System.announce, List.contains_iff_mem, listed, listedTwo, if_false]
    exact ⟨twins, speakAlike_silent rfl rfl rfl rfl⟩

theorem reports_announce (twins : Twins number first second one two) :
    (one.announce number).reports = one.reports := by
  by_cases listed : number ∈ one.unannounced
  · simp [announce_of_mem listed, twins.mine, Nat.ne_of_lt twins.superseded]
  · simp [System.announce, listed]

theorem told (twins : Twins number first second one two) (query : Nat) {other : Nat}
    (waits : one.waiting.find? (fun waiter => waiter.query == query) = some ⟨query, other⟩)
    (covered : ¬ one.Exposed query number) : two.told other = one.told other := by
  by_cases mine : other = number
  · subst mine
    cases value : one.cell.data with
    | none => exact absurd ⟨waits, value⟩ covered
    | some data => simp [System.told, twins.mine, twins.yours, twins.cell, value]
  · rw [System.told, twins.others other mine, twins.cell]
    rfl

theorem told_eq_none_iff (twins : Twins number first second one two) (other : Nat) :
    two.told other = none ↔ one.told other = none := by
  by_cases mine : other = number
  · simp [System.told, mine, twins.mine, twins.yours]
  · simp [System.told, twins.others other mine]

theorem resume_of_exposed (twins : Twins number first second one two) {query : Nat}
    (exposed : one.Exposed query number) :
    (one.resume query).answers = one.answers ++ [⟨query, .failed first⟩] ∧
      (two.resume query).answers = two.answers ++ [⟨query, .failed second⟩] ∧
      (one.resume query).reports = one.reports ∧ (two.resume query).reports = two.reports := by
  obtain ⟨waits, empty⟩ := exposed
  have waitsTwo := waits
  rw [← twins.waiting] at waitsTwo
  have toldOne : one.told number = some (.failed first) := by
    simp [System.told, twins.mine, empty]
  have toldTwo : two.told number = some (.failed second) := by
    simp [System.told, twins.yours, twins.cell, empty]
  rw [resume_of_find waits, resume_of_find waitsTwo, toldOne, toldTwo]
  exact ⟨rfl, rfl, rfl, rfl⟩

theorem resume (twins : Twins number first second one two) (query : Nat) :
    Twins number first second (one.resume query) (two.resume query) ∧
      (¬ one.Exposed query number → SpeakAlike one two (one.resume query) (two.resume query)) := by
  cases found : one.waiting.find? (fun waiter => waiter.query == query) with
  | none =>
      have foundTwo : two.waiting.find? (fun waiter => waiter.query == query) = none := by
        rw [twins.waiting, found]
      simp only [System.resume, found, foundTwo]
      exact ⟨twins, fun _ => speakAlike_silent rfl rfl rfl rfl⟩
  | some waiter =>
      have foundTwo : two.waiting.find? (fun waiter => waiter.query == query) = some waiter := by
        rw [twins.waiting, found]
      have filtered : two.waiting.filter (fun waiter => waiter.query != query) =
          one.waiting.filter (fun waiter => waiter.query != query) := by
        rw [twins.waiting]
      have asked : waiter = ⟨query, waiter.number⟩ := by
        have same := List.find?_some found
        rw [← eq_of_beq same]
      rw [resume_of_find found, resume_of_find foundTwo]
      constructor
      · have both := twins.told_eq_none_iff waiter.number
        cases toldOne : one.told waiter.number with
        | none =>
            rw [both.mpr toldOne]
            exact twins
        | some outcome =>
            cases toldTwo : two.told waiter.number with
            | none =>
                rw [both.mp toldTwo] at toldOne
                cases toldOne
            | some other => exact twins.frame twins.unannounced filtered _ _ _ _
      · intro covered
        rw [twins.told query (asked ▸ found) covered]
        cases one.told waiter.number with
        | none => exact speakAlike_silent rfl rfl rfl rfl
        | some outcome => exact ⟨[⟨query, outcome⟩], [], rfl, rfl, by simp, by simp⟩

end Twins

theorem Launched.twins_land {system : System Load Data} (launched : system.Launched)
    {number : Nat} (flying : system.InFlight number)
    (superseded : number < system.cell.generation) (first second : Failure) :
    Twins number first.asLoad second.asLoad (system.land number (.failed first))
        (system.land number (.failed second)) ∧
      (system.land number (.failed second)).reports =
        (system.land number (.failed first)).reports := by
  have older : number ≠ system.cell.generation := Nat.ne_of_lt superseded
  have fresh : system.landing? number = none :=
    (landing?_eq_none_iff system number).mpr (launched.apart number flying)
  have cell (failure : Failure) : (system.land number (.failed failure)).cell = system.cell := by
    rw [cell_land flying, if_neg older]
  have ends (failure : Failure) :
      (system.land number (.failed failure)).landing? number = some (.failed failure.asLoad) := by
    rw [landing?_land flying, fresh, if_pos rfl]
    rfl
  obtain ⟨flight, -, landedFirst⟩ := land_of_inFlight flying (.failed first)
  obtain ⟨other, -, landedSecond⟩ := land_of_inFlight flying (.failed second)
  refine ⟨⟨by rw [cell, cell], ?_, ?_, ?_, ?_, ends first, ends second, by rwa [cell], ?_⟩, ?_⟩
  · rw [landedFirst, landedSecond]
  · rw [landedFirst, landedSecond]
  · rw [landedFirst, landedSecond]
  · intro other apart
    rw [landing?_land flying, landing?_land flying, if_neg (Ne.symm apart), if_neg (Ne.symm apart)]
  · exact fun still => ((inFlight_land flying _ number).mp still).2 rfl
  · rw [landedFirst, landedSecond]

end System

end Loading

end InputDeck
