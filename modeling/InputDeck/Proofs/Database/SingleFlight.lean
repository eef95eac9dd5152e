import InputDeck.Proofs.Database.Locations
import InputDeck.Proofs.Database.Superseded
import InputDeck.Proofs.Loading.Starts

/-!
What a database requests and what it executes.  Its sources are those of the newest request, each
request is executed once at most, and pointing it at other sources changes nothing if one of them
is missing, or if both are those it has.
-/

namespace InputDeck

open Schema (Failure Loaded)

namespace Database

open Loading (Flight)

def requested (db : Database) : Event → Option Sources
  | .setSource files _ primary secondary =>
      match files.sourcesAt primary secondary with
      | .error _ => none
      | .ok sources => if db.sources = some sources ∧ db.phase ≠ .empty then none else some sources
  | .reload _ => db.sources
  | _ => none

def started (db : Database) (event : Event) : List (Flight Sources) :=
  db.system.startedUntil (db.step event).system

def requests (db : Database) : List Event → List Sources
  | [] => []
  | event :: events => (db.requested event).toList ++ (db.step event).requests events

def starts (db : Database) : List Event → List (Flight Sources)
  | [] => []
  | event :: events => db.started event ++ (db.step event).starts events

structure Turns (db next : Database) (requested : Option Sources) : Prop where
  system : db.system.Turns next.system requested (db.system.startedUntil next.system)
  sources : next.sources = requested.or db.sources
  executed : (db.system.executed.map (·.number)).Nodup →
    next.system.executed.Perm (db.system.executed ++ db.system.startedUntil next.system)

namespace Turns

variable {db next : Database}

theorem advance (happens : Loading.Event Sources Loaded) {reports : List Failure}
    (system : next.system = { db.system.step happens with reports })
    (sources : next.sources = happens.load?.or db.sources) : db.Turns next happens.load? := by
  have frame : ∀ {load? : Option Sources} {new : List (Flight Sources)},
      db.system.Turns (db.system.step happens) load? new →
        db.system.Turns { db.system.step happens with reports } load? new := by
    intro load? new turns
    cases turns with
    | kept generation pending => exact .kept generation pending
    | started generation waited pending => exact .started generation waited pending
    | deferred generation pending => exact .deferred generation pending
    | requested generation pending => exact .requested generation pending
  refine ⟨?_, sources, ?_⟩
  · rw [system]
    exact frame (Loading.System.turns_step db.system happens)
  · rw [system]
    intro numbers
    exact Loading.System.executed_step numbers happens

theorem stay {reports : List Failure} (system : next.system = { db.system with reports })
    (sources : next.sources = db.sources) : db.Turns next none := by
  have nothing : db.system.startedUntil next.system = [] := by
    rw [system]
    exact List.drop_length
  refine ⟨?_, sources, ?_⟩
  · rw [nothing, system]
    exact .kept rfl rfl
  · rw [nothing, system]
    simp [Loading.System.executed]

end Turns

theorem turns_reload (db : Database) (serving : Bool) :
    db.Turns (db.reload serving) db.sources := by
  unfold reload
  split
  · next missing =>
      rw [missing]
      exact .stay rfl rfl
  · next sources there =>
      rw [there]
      exact .advance (.request serving sources) rfl rfl

theorem Turns.of_pointed {db next : Database} {sources : Sources}
    (turns : Turns { db with sources := some sources } next (some sources)) :
    db.Turns next (some sources) :=
  ⟨turns.system, turns.sources, turns.executed⟩

theorem turns_step (db : Database) (event : Event) :
    db.Turns (db.step event) (db.requested event) := by
  cases event with
  | setSource files serving primary secondary =>
      simp only [step, setSource, requested]
      cases files.sourcesAt primary secondary with
      | error path => exact .stay rfl rfl
      | ok sources =>
          dsimp only
          split
          · exact .stay rfl rfl
          · exact .of_pointed (turns_reload { db with sources := some sources } serving)
  | reload serving => exact turns_reload db serving
  | ask direct =>
      rw [step, ask, tell_eq]
      exact .advance (.ask db.asked) rfl rfl
  | land number outcome => exact .advance (.land number outcome) rfl rfl
  | announce number => exact .advance (.announce number) rfl rfl
  | resume query =>
      rw [step, resume, tell_eq]
      split
      · exact .advance (.resume query) rfl rfl
      · exact .stay rfl rfl

/-- A database keeps the ledger of its loads, its sources are those of the newest request, and what
has been started is in flight or has ended. -/
structure Accounted (db : Database) (requests : List Sources) (starts : List (Flight Sources)) :
    Prop where
  ledger : db.system.Ledger requests starts
  current : requests.getLast? = db.sources
  executed : db.system.executed.Perm starts

namespace Accounted

variable {db : Database} {requests : List Sources} {starts : List (Flight Sources)}

theorem step (accounted : db.Accounted requests starts) (event : Event) :
    (db.step event).Accounted (requests ++ (db.requested event).toList)
      (starts ++ db.started event) := by
  have turns := turns_step db event
  refine ⟨accounted.ledger.step turns.system, ?_, ?_⟩
  · rw [turns.sources, List.getLast?_append, accounted.current]
    cases db.requested event with
    | none => rfl
    | some sources => rfl
  · have numbers : (starts.map (·.number)).Nodup :=
      List.pairwise_map.mpr (accounted.ledger.once.imp Nat.ne_of_lt)
    have apart := (accounted.executed.map (·.number)).nodup_iff.mpr numbers
    exact (turns.executed apart).trans (accounted.executed.append_right _)

theorem run (accounted : db.Accounted requests starts) (events : List Event) :
    (db.run events).Accounted (requests ++ db.requests events) (starts ++ db.starts events) := by
  induction events generalizing db requests starts with
  | nil => simpa [Database.requests, Database.starts] using accounted
  | cons event events ih =>
      have later := ih (accounted.step event)
      rw [List.append_assoc, List.append_assoc] at later
      exact later

end Accounted

section SetSource

variable {db : Database} {files : FileTree} {primary : Text} {secondary : Option Text}
  {sources : Sources}

end SetSource

end Database

end InputDeck
