import InputDeck.Database
import InputDeck.Proofs.Loading.Twins

/-!
The failure of a superseded load.  The end of such a load is announced in silence, and nothing else
that a database does shows how the load failed, but for one way: a query that waited for it goes on
while there is no schema, and reports what it is told.
-/

namespace InputDeck

open Schema (Failure Loaded)

namespace Database

def toldOf (db : Database) (query : Nat) : List Failure :=
  match db.system.answer? query with
  | some (.failed failure) => if db.direct.contains query then [] else [failure]
  | _ => []

theorem tell_eq (db : Database) (query : Nat) :
    db.tell query =
      { db with system := { db.system with reports := db.system.reports ++ db.toldOf query } } := by
  unfold tell toldOf
  cases db.system.answer? query with
  | none => simp
  | some outcome =>
      cases outcome with
      | loaded loaded => simp
      | cancelled => simp
      | failed failure =>
          dsimp only
          split
          · simp
          · rfl

structure Sound (db : Database) : Prop where
  launched : db.system.Launched
  booked : Loading.Booked db.asked db.system.waiting db.system.answers

theorem sound_initial : ({} : Database).Sound :=
  ⟨Loading.System.launched_initial, by simp, by simp, List.Pairwise.nil⟩

namespace Sound

variable {db : Database}

theorem advance (sound : db.Sound) (happens : Loading.Event Sources Loaded) {next : Database}
    {reports : List Failure} (system : next.system = { db.system.step happens with reports })
    (later : db.asked ≤ next.asked)
    (asks : ∀ query, happens = .ask query → query = db.asked ∧ db.asked < next.asked) :
    next.Sound := by
  have booked := sound.booked.serve (Loading.System.serves_step db.system happens) later asks
  have launched := sound.launched.step happens
  constructor
  · rw [system]
    exact launched.frame _ _ _ _ reports
  · rw [system]
    exact booked

theorem reload (sound : db.Sound) (serving : Bool) : (db.reload serving).Sound := by
  unfold Database.reload
  split
  · exact ⟨sound.launched.frame _ _ _ _ _, sound.booked⟩
  · next sources _ => exact sound.advance (.request serving sources) rfl (Nat.le_refl _) (by simp)

theorem step (sound : db.Sound) (event : Event) : (db.step event).Sound := by
  cases event with
  | setSource files serving primary secondary =>
      rw [Database.step, setSource]
      split
      · exact ⟨sound.launched.frame _ _ _ _ _, sound.booked⟩
      · next sources _ =>
          have pointed : Sound { db with sources := some sources } :=
            ⟨sound.launched, sound.booked⟩
          split
          · exact sound
          · exact pointed.reload serving
  | reload serving => exact sound.reload serving
  | ask direct =>
      rw [Database.step, ask, tell_eq]
      exact sound.advance (.ask db.asked) rfl (Nat.le_succ _) (by simp)
  | land number outcome => exact sound.advance (.land number outcome) rfl (Nat.le_refl _) (by simp)
  | announce number => exact sound.advance (.announce number) rfl (Nat.le_refl _) (by simp)
  | resume query =>
      rw [Database.step, resume, tell_eq]
      split
      · exact sound.advance (.resume query) rfl (Nat.le_refl _) (by simp)
      · exact sound

theorem run (sound : db.Sound) (events : List Event) : (db.run events).Sound := by
  induction events generalizing db with
  | nil => exact sound
  | cons event events ih => exact ih (sound.step event)

end Sound

/-- A query waits for a load while there is no schema, and reports what it is told. -/
structure Exposed (db : Database) (query number : Nat) : Prop where
  waits : ⟨query, number⟩ ∈ db.system.waiting
  empty : db.system.cell.data = none
  indirect : query ∉ db.direct

/-- Two databases that are alike but for the failure of one superseded load, and for what has been
said about it. -/
structure Twins (number : Nat) (first second : Failure) (one two : Database) : Prop where
  sources : two.sources = one.sources
  asked : two.asked = one.asked
  direct : two.direct = one.direct
  system : Loading.System.Twins number first second one.system two.system

namespace Sound

variable {db : Database}

theorem exposed_iff (sound : db.Sound) (query number : Nat) :
    db.system.Exposed query number ↔
      ⟨query, number⟩ ∈ db.system.waiting ∧ db.system.cell.data = none := by
  rw [Loading.System.Exposed]
  refine and_congr_left fun _ => ⟨List.mem_of_find?_eq_some, fun waits => ?_⟩
  exact sound.booked.find?_of_mem waits

theorem unanswered_asked (sound : db.Sound) :
    ∀ answer ∈ db.system.answers, answer.query ≠ db.asked :=
  fun answer member => Nat.ne_of_lt (sound.booked.served answer member)

end Sound

def ReportAlike (one two nextOne nextTwo : Database) : Prop :=
  ∃ reports, nextOne.reports = one.reports ++ reports ∧ nextTwo.reports = two.reports ++ reports

theorem reports_resume {db : Database} {query : Nat} {failure : Failure}
    (waits : db.system.waiting.any (fun waiter => waiter.query == query) = true)
    (unanswered : ∀ answer ∈ db.system.answers, answer.query ≠ query)
    (given : (db.system.resume query).answers =
      db.system.answers ++ [⟨query, .failed failure⟩])
    (silent : (db.system.resume query).reports = db.system.reports) :
    (db.resume query).reports =
      db.reports ++ if query ∈ db.direct then [] else [failure] := by
  have answered := Loading.System.answer?_of_concat unanswered given
  simp only [resume, waits, if_true, tell_eq, reports, toldOf, Loading.System.step, answered,
    silent, List.contains_iff_mem]

inductive Tells (number : Nat) (first second : Failure) (db : Database) :
    Event → List Failure → List Failure → Prop
  | alike {event : Event} (reports : List Failure)
      (covered : ∀ query, event = .resume query → ¬ db.Exposed query number) :
      Tells number first second db event reports reports
  | exposed {query : Nat} (exposed : db.Exposed query number) :
      Tells number first second db (.resume query) [first] [second]

namespace Twins

variable {number : Nat} {first second : Failure} {one two : Database}

theorem frame (twins : Twins number first second one two) (reportsOne reportsTwo : List Failure) :
    Twins number first second { one with system := { one.system with reports := reportsOne } }
      { two with system := { two.system with reports := reportsTwo } } :=
  ⟨twins.sources, twins.asked, twins.direct,
    twins.system.frame twins.system.unannounced twins.system.waiting _ _ _ _⟩

theorem report (twins : Twins number first second one two) (failure : Failure) :
    Twins number first second (one.report failure) (two.report failure) ∧
      ReportAlike one two (one.report failure) (two.report failure) :=
  ⟨twins.frame _ _, [failure], rfl, rfl⟩

theorem advance (twins : Twins number first second one two)
    {systemOne systemTwo : Loading.System Sources Loaded}
    (next : Loading.System.Twins number first second systemOne systemTwo ∧
      Loading.System.SpeakAlike one.system two.system systemOne systemTwo) :
    Twins number first second { one with system := systemOne } { two with system := systemTwo } ∧
      ReportAlike one two { one with system := systemOne } { two with system := systemTwo } := by
  obtain ⟨system, answers, reports, -, -, reportedOne, reportedTwo⟩ := next
  exact ⟨⟨twins.sources, twins.asked, twins.direct, system⟩, reports, reportedOne, reportedTwo⟩

theorem reload (twins : Twins number first second one two) (serving : Bool) :
    Twins number first second (one.reload serving) (two.reload serving) ∧
      ReportAlike one two (one.reload serving) (two.reload serving) := by
  cases there : one.sources with
  | none =>
      simp only [Database.reload, twins.sources, there]
      exact twins.report .noSource
  | some sources =>
      obtain ⟨system, answers, reports, -, -, reportedOne, reportedTwo⟩ :=
        twins.system.request serving sources
      simp only [Database.reload, twins.sources, there]
      exact ⟨⟨rfl, twins.asked, twins.direct, system⟩, reports, reportedOne, reportedTwo⟩

theorem setSource (twins : Twins number first second one two) (files : FileTree) (serving : Bool)
    (primary : Text) (secondary : Option Text) :
    Twins number first second (one.setSource files serving primary secondary).2
        (two.setSource files serving primary secondary).2 ∧
      ReportAlike one two (one.setSource files serving primary secondary).2
        (two.setSource files serving primary secondary).2 := by
  have phase : two.phase = one.phase := by rw [Database.phase, Database.phase, twins.system.cell]
  unfold Database.setSource
  rw [twins.sources, phase]
  cases files.sourcesAt primary secondary with
  | error path => exact twins.report (.noSuchPath path)
  | ok sources =>
      dsimp only
      split
      · exact ⟨twins, [], by simp, by simp⟩
      · have pointed : Twins number first second { one with sources := some sources }
            { two with sources := some sources } :=
          ⟨rfl, twins.asked, twins.direct, twins.system⟩
        exact pointed.reload serving

theorem tell {nextOne nextTwo : Database} (next : Twins number first second nextOne nextTwo)
    (alike : Loading.System.SpeakAlike one.system two.system nextOne.system nextTwo.system)
    {query : Nat} (openOne : ∀ answer ∈ one.system.answers, answer.query ≠ query)
    (openTwo : ∀ answer ∈ two.system.answers, answer.query ≠ query) :
    Twins number first second (nextOne.tell query) (nextTwo.tell query) ∧
      ReportAlike one two (nextOne.tell query) (nextTwo.tell query) := by
  have told : nextTwo.toldOf query = nextOne.toldOf query := by
    rw [toldOf, toldOf, alike.answer?_eq openOne openTwo, next.direct]
  obtain ⟨-, reports, -, -, reportedOne, reportedTwo⟩ := alike
  rw [tell_eq, tell_eq, told]
  refine ⟨next.frame _ _, reports ++ nextOne.toldOf query, ?_, ?_⟩
  · rw [← List.append_assoc]
    exact congrArg (· ++ nextOne.toldOf query) reportedOne
  · rw [← List.append_assoc]
    exact congrArg (· ++ nextOne.toldOf query) reportedTwo

theorem ask (twins : Twins number first second one two) (soundOne : one.Sound)
    (soundTwo : two.Sound) (direct : Bool) :
    Twins number first second (one.ask direct) (two.ask direct) ∧
      ReportAlike one two (one.ask direct) (two.ask direct) := by
  have openTwo := soundTwo.unanswered_asked
  rw [twins.asked] at openTwo
  obtain ⟨system, alike⟩ := twins.system.ask one.asked
  have next : Twins number first second
      { one with
        system := one.system.step (.ask one.asked),
        asked := one.asked + 1,
        direct := if direct then one.asked :: one.direct else one.direct }
      { two with
        system := two.system.step (.ask one.asked),
        asked := one.asked + 1,
        direct := if direct then one.asked :: one.direct else one.direct } :=
    ⟨twins.sources, rfl, rfl, system⟩
  unfold Database.ask
  rw [twins.asked, twins.direct]
  exact next.tell alike soundOne.unanswered_asked openTwo

theorem any_waiting (twins : Twins number first second one two) (query : Nat) :
    two.system.waiting.any (fun waiter => waiter.query == query) =
      one.system.waiting.any (fun waiter => waiter.query == query) := by
  rw [twins.system.waiting]

theorem unanswered_of_waits (twins : Twins number first second one two) (soundOne : one.Sound)
    (soundTwo : two.Sound) {query : Nat}
    (waits : one.system.waiting.any (fun waiter => waiter.query == query) = true) :
    (∀ answer ∈ one.system.answers, answer.query ≠ query) ∧
      ∀ answer ∈ two.system.answers, answer.query ≠ query := by
  obtain ⟨waiter, member, same⟩ := List.any_eq_true.mp waits
  obtain rfl := eq_of_beq same
  have memberTwo := member
  rw [← twins.system.waiting] at memberTwo
  exact ⟨(soundOne.booked.queued waiter member).2, (soundTwo.booked.queued waiter memberTwo).2⟩

theorem resume_of_exposed (twins : Twins number first second one two) (soundOne : one.Sound)
    (soundTwo : two.Sound) {query : Nat} (exposed : one.system.Exposed query number) :
    (one.resume query).reports = one.reports ++ (if query ∈ one.direct then [] else [first]) ∧
      (two.resume query).reports =
        two.reports ++ (if query ∈ one.direct then [] else [second]) := by
  have waits : one.system.waiting.any (fun waiter => waiter.query == query) = true :=
    List.any_eq_true.mpr
      ⟨_, ((soundOne.exposed_iff query number).mp exposed).1, beq_self_eq_true query⟩
  obtain ⟨openOne, openTwo⟩ := twins.unanswered_of_waits soundOne soundTwo waits
  obtain ⟨givenOne, givenTwo, silentOne, silentTwo⟩ := twins.system.resume_of_exposed exposed
  have reportsTwo := reports_resume (twins.any_waiting query ▸ waits) openTwo givenTwo silentTwo
  rw [twins.direct] at reportsTwo
  exact ⟨reports_resume waits openOne givenOne silentOne, reportsTwo⟩

theorem resume (twins : Twins number first second one two) (soundOne : one.Sound)
    (soundTwo : two.Sound) (query : Nat) :
    Twins number first second (one.resume query) (two.resume query) ∧
      (¬ one.Exposed query number →
        ReportAlike one two (one.resume query) (two.resume query)) := by
  by_cases waits : one.system.waiting.any (fun waiter => waiter.query == query) = true
  · obtain ⟨openOne, openTwo⟩ := twins.unanswered_of_waits soundOne soundTwo waits
    obtain ⟨system, alike⟩ := twins.system.resume query
    have next : Twins number first second
        { one with system := one.system.step (.resume query) }
        { two with system := two.system.step (.resume query) } :=
      ⟨twins.sources, twins.asked, twins.direct, system⟩
    have told : one.resume query =
        Database.tell { one with system := one.system.step (.resume query) } query := by
      rw [Database.resume, if_pos waits]
    have toldTwo : two.resume query =
        Database.tell { two with system := two.system.step (.resume query) } query := by
      rw [Database.resume, twins.any_waiting, if_pos waits]
    constructor
    · rw [told, toldTwo, tell_eq, tell_eq]
      exact next.frame _ _
    · intro covered
      by_cases exposed : one.system.Exposed query number
      · obtain ⟨there, empty⟩ := (soundOne.exposed_iff query number).mp exposed
        have direct : query ∈ one.direct :=
          not_not.mp fun indirect => covered ⟨there, empty, indirect⟩
        obtain ⟨reportsOne, reportsTwo⟩ := twins.resume_of_exposed soundOne soundTwo exposed
        rw [if_pos direct] at reportsOne reportsTwo
        exact ⟨[], reportsOne, reportsTwo⟩
      · rw [told, toldTwo]
        exact (next.tell (alike exposed) openOne openTwo).2
  · rw [Database.resume, Database.resume, twins.any_waiting, if_neg waits, if_neg waits]
    exact ⟨twins, fun _ => ⟨[], by simp, by simp⟩⟩

theorem step (twins : Twins number first second one two) (soundOne : one.Sound)
    (soundTwo : two.Sound) (event : Event) :
    Twins number first second (one.step event) (two.step event) ∧
      ∃ reportsOne reportsTwo, (one.step event).reports = one.reports ++ reportsOne ∧
        (two.step event).reports = two.reports ++ reportsTwo ∧
        one.Tells number first second event reportsOne reportsTwo := by
  have alike {event : Event} {nextOne nextTwo : Database}
      (next : Twins number first second nextOne nextTwo ∧ ReportAlike one two nextOne nextTwo)
      (other : ∀ query, event ≠ .resume query) :
      Twins number first second nextOne nextTwo ∧
        ∃ reportsOne reportsTwo, nextOne.reports = one.reports ++ reportsOne ∧
          nextTwo.reports = two.reports ++ reportsTwo ∧
          one.Tells number first second event reportsOne reportsTwo := by
    obtain ⟨twins, reports, reportsOne, reportsTwo⟩ := next
    exact ⟨twins, reports, reports, reportsOne, reportsTwo,
      .alike reports fun query same => absurd same (other query)⟩
  cases event with
  | setSource files serving primary secondary =>
      exact alike (twins.setSource files serving primary secondary) (by simp)
  | reload serving => exact alike (twins.reload serving) (by simp)
  | ask direct => exact alike (twins.ask soundOne soundTwo direct) (by simp)
  | land other outcome => exact alike (twins.advance (twins.system.land other outcome)) (by simp)
  | announce other => exact alike (twins.advance (twins.system.announce other)) (by simp)
  | resume query =>
      obtain ⟨next, alike⟩ := twins.resume soundOne soundTwo query
      refine ⟨next, ?_⟩
      by_cases exposed : one.Exposed query number
      · have waits := (soundOne.exposed_iff query number).mpr ⟨exposed.waits, exposed.empty⟩
        obtain ⟨reportsOne, reportsTwo⟩ := twins.resume_of_exposed soundOne soundTwo waits
        rw [if_neg exposed.indirect] at reportsOne reportsTwo
        exact ⟨[first], [second], reportsOne, reportsTwo, .exposed exposed⟩
      · obtain ⟨reports, reportsOne, reportsTwo⟩ := alike exposed
        refine ⟨reports, reports, reportsOne, reportsTwo, .alike reports fun other same => ?_⟩
        cases same
        exact exposed

end Twins

/-- In the course of events an exposed query goes on. -/
def Leaks (db : Database) (number : Nat) (events : List Event) : Prop :=
  ∃ earlier query later, events = earlier ++ .resume query :: later ∧
    (db.run earlier).Exposed query number

theorem leaks_cons (db : Database) (number : Nat) (event : Event) (events : List Event) :
    db.Leaks number (event :: events) ↔
      (∃ query, event = .resume query ∧ db.Exposed query number) ∨
        (db.step event).Leaks number events := by
  constructor
  · rintro ⟨earlier, query, later, split, exposed⟩
    rcases List.cons_eq_append_iff.mp split with ⟨rfl, same⟩ | ⟨inner, rfl, rfl⟩
    · obtain ⟨rfl, rfl⟩ := List.cons.inj same
      exact .inl ⟨query, rfl, exposed⟩
    · exact .inr ⟨inner, query, later, rfl, exposed⟩
  · rintro (⟨query, rfl, exposed⟩ | ⟨earlier, query, later, rfl, exposed⟩)
    · exact ⟨[], query, events, rfl, exposed⟩
    · exact ⟨event :: earlier, query, later, rfl, exposed⟩

namespace Tells

variable {number : Nat} {first second : Failure} {db : Database} {event : Event}
  {reportsOne reportsTwo : List Failure}

theorem length_eq (tells : db.Tells number first second event reportsOne reportsTwo) :
    reportsTwo.length = reportsOne.length := by
  cases tells with
  | alike => rfl
  | exposed => rfl

theorem eq_iff (tells : db.Tells number first second event reportsOne reportsTwo) :
    reportsTwo = reportsOne ↔
      first = second ∨ ¬ ∃ query, event = .resume query ∧ db.Exposed query number := by
  cases tells with
  | alike _ covered =>
      refine iff_of_true rfl (.inr ?_)
      rintro ⟨query, same, exposed⟩
      exact covered query same exposed
  | exposed exposed => simp [exposed, eq_comm]

end Tells

theorem Twins.run {number : Nat} {first second : Failure} {one two : Database}
    (twins : Twins number first second one two) (soundOne : one.Sound) (soundTwo : two.Sound)
    (events : List Event) :
    Twins number first second (one.run events) (two.run events) ∧
      ∃ reportsOne reportsTwo, (one.run events).reports = one.reports ++ reportsOne ∧
        (two.run events).reports = two.reports ++ reportsTwo ∧
        reportsTwo.length = reportsOne.length ∧
        (reportsTwo = reportsOne ↔ first = second ∨ ¬ one.Leaks number events) := by
  induction events generalizing one two with
  | nil => exact ⟨twins, [], [], by simp, by simp, rfl, by simp [Leaks]⟩
  | cons event events ih =>
      obtain ⟨next, nowOne, nowTwo, stepOne, stepTwo, tells⟩ := twins.step soundOne soundTwo event
      obtain ⟨last, thenOne, thenTwo, runOne, runTwo, lengths, same⟩ :=
        ih next (soundOne.step event) (soundTwo.step event)
      refine ⟨last, nowOne ++ thenOne, nowTwo ++ thenTwo, ?_, ?_, ?_, ?_⟩
      · rw [run_cons, runOne, stepOne, List.append_assoc]
      · rw [run_cons, runTwo, stepTwo, List.append_assoc]
      · rw [List.length_append, List.length_append, tells.length_eq, lengths]
      · rw [List.append_eq_append_iff_of_size_eq_left tells.length_eq, tells.eq_iff, same,
          ← or_and_left, ← not_or, leaks_cons]

def afterFailure (before : List Event) (number : Nat) (failure : Failure) (events : List Event) :
    Database :=
  run {} (before ++ .land number (.failed failure) :: events)

theorem run_afterFailure (before : List Event) (number : Nat) (failure : Failure)
    (events more : List Event) :
    (afterFailure before number failure events).run more =
      afterFailure before number failure (events ++ more) := by
  simp [afterFailure, run_append]

theorem sound_afterFailure (before : List Event) (number : Nat) (failure : Failure)
    (events : List Event) : (afterFailure before number failure events).Sound :=
  sound_initial.run _

theorem exists_asLoad_ne (failure : Failure) :
    ∃ other : Failure, failure.asLoad ≠ other.asLoad := by
  by_cases same : failure.asLoad = .noSource
  · refine ⟨.notLoaded, ?_⟩
    rw [same]
    simp [Failure.asLoad, Failure.family]
  · exact ⟨.noSource, same⟩

section

variable {before : List Event} {number : Nat}

theorem twins_afterFailure (flying : (run {} before).system.InFlight number)
    (superseded : number < (run {} before).system.cell.generation) (first second : Failure)
    (events : List Event) :
    Twins number first.asLoad second.asLoad (afterFailure before number first events)
        (afterFailure before number second events) ∧
      ((afterFailure before number second events).reports =
          (afterFailure before number first events).reports ↔
        first.asLoad = second.asLoad ∨
          ¬ (afterFailure before number first []).Leaks number events) := by
  obtain ⟨system, silent⟩ :=
    (sound_initial.run before).launched.twins_land flying superseded first second
  have ended (failure : Failure) : afterFailure before number failure [] =
      { run {} before with
        system := (run {} before).system.land number (.failed failure) } := by
    simp only [afterFailure, run_append]
    rfl
  have twins : Twins number first.asLoad second.asLoad (afterFailure before number first [])
      (afterFailure before number second []) := by
    rw [ended, ended]
    exact ⟨rfl, rfl, rfl, system⟩
  have same : (afterFailure before number second []).reports =
      (afterFailure before number first []).reports := by
    rw [ended, ended]
    exact silent
  obtain ⟨later, reportsOne, reportsTwo, one, two, lengths, iff⟩ :=
    twins.run (sound_afterFailure before number first [])
      (sound_afterFailure before number second []) events
  rw [run_afterFailure, run_afterFailure, List.nil_append] at later
  rw [run_afterFailure, List.nil_append] at one two
  refine ⟨later, ?_⟩
  rw [one, two, same, List.append_cancel_left_eq]
  exact iff

/-- The announcement of the end of a superseded load is silent, and a query that waited for it and
is exposed when it goes on reports how it failed.  The reports do not depend on how it failed just
if no such query goes on. -/
theorem superseded_failure_hidden_iff (flying : (run {} before).system.InFlight number)
    (superseded : number < (run {} before).system.cell.generation) (failure : Failure)
    (events : List Event) :
    (afterFailure before number failure (events ++ [.announce number])).reports =
        (afterFailure before number failure events).reports ∧
      (∀ query, (afterFailure before number failure events).Exposed query number →
        (afterFailure before number failure (events ++ [.resume query])).reports =
          (afterFailure before number failure events).reports ++ [failure.asLoad]) ∧
      ((∀ other, (afterFailure before number other events).reports =
          (afterFailure before number failure events).reports) ↔
        ∀ earlier query later, events = earlier ++ .resume query :: later →
          ¬ (afterFailure before number failure earlier).Exposed query number) := by
  -- The load is compared with itself for its own reports, and with any other for what they hide.
  have compare := twins_afterFailure flying superseded failure
  have sound := sound_afterFailure before number failure events
  obtain ⟨twins, -⟩ := compare failure events
  refine ⟨?_, ?_, ?_⟩
  · rw [← run_afterFailure]
    exact twins.system.reports_announce
  · intro query exposed
    have waits := (sound.exposed_iff query number).mpr ⟨exposed.waits, exposed.empty⟩
    have reported := (twins.resume_of_exposed sound sound waits).1
    rw [if_neg exposed.indirect] at reported
    rw [← run_afterFailure]
    exact reported
  · have leaks : (afterFailure before number failure []).Leaks number events ↔
        ∃ earlier query later, events = earlier ++ .resume query :: later ∧
          (afterFailure before number failure earlier).Exposed query number := by
      simp only [Leaks, run_afterFailure, List.nil_append]
    simp only [(compare _ events).2, leaks]
    constructor
    · intro hidden earlier query later split exposed
      obtain ⟨other, apart⟩ := exists_asLoad_ne failure
      exact ((hidden other).resolve_left apart) ⟨earlier, query, later, split, exposed⟩
    · rintro covered other
      refine .inr ?_
      rintro ⟨earlier, query, later, split, exposed⟩
      exact covered earlier query later split exposed

end

theorem impatient_told :
    let files : FileTree := { root := ['/'], entries := [([['s']], .file [])] }
    let before : List Event := [.setSource files true ['s'] none, .ask false, .reload true]
    (run {} before).system.InFlight 1 ∧ 1 < (run {} before).system.cell.generation ∧
      (afterFailure before 1 .notLoaded [.announce 1]).reports = [] ∧
      (afterFailure before 1 .notLoaded [.announce 1, .resume 0]).reports = [.notLoaded] := by
  intro files before
  have flying : (run {} before).system.InFlight 1 :=
    ⟨⟨1, ⟨[['s']], none⟩⟩, by decide, rfl⟩
  have superseded : 1 < (run {} before).system.cell.generation := by decide
  have exposed : (afterFailure before 1 .notLoaded [.announce 1]).Exposed 0 1 :=
    ⟨by decide, by decide, by decide⟩
  have silent := (superseded_failure_hidden_iff flying superseded .notLoaded []).1
  have told := (superseded_failure_hidden_iff flying superseded .notLoaded [.announce 1]).2.1
  exact ⟨flying, superseded, silent, told 0 exposed⟩

end Database

end InputDeck
