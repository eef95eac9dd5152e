import InputDeck.Schema.Failure

/-!
A cell that holds one loaded value.  Each request starts a load, at once or when the value is
first asked for; a newer request supersedes the older ones, whose outcome then leaves the cell as
it is.  All that happens is an event, and the events may come in any order.
-/

namespace InputDeck

namespace Loading

open Schema (Failure)

inductive Outcome (Data : Type) where
  | loaded (data : Data)
  | failed (failure : Failure)
  | cancelled
deriving DecidableEq, Repr

/-- A cell.  Requests are numbered from one. -/
structure Cell (Load Data : Type) where
  data : Option Data := none
  failure : Option Failure := none
  task : Option Nat := none
  pending : Option Load := none
  generation : Nat := 0
deriving DecidableEq, Repr

inductive Phase where
  | empty
  | loading
  | ready
deriving DecidableEq, Repr

def Phase.label : Phase → String
  | empty => "empty"
  | loading => "loading"
  | ready => "ready"

namespace Cell

def phase (cell : Cell Load Data) : Phase :=
  if cell.task.isSome || cell.pending.isSome then .loading
  else if cell.data.isSome then .ready
  else .empty

/-- Takes the outcome of the load that the last request started. -/
def settle (cell : Cell Load Data) : Outcome Data → Cell Load Data
  | .loaded data => { cell with task := none, data := some data, failure := none }
  | .failed failure =>
      { cell with
        task := none,
        failure := if cell.data.isNone then some failure else cell.failure }
  | .cancelled => cell

end Cell

structure Flight (Load : Type) where
  number : Nat
  load : Load
deriving DecidableEq, Repr

structure Landing (Load Data : Type) extends Flight Load where
  outcome : Outcome Data
deriving DecidableEq, Repr

structure Waiter where
  query : Nat
  number : Nat
deriving DecidableEq, Repr

structure Answer (Data : Type) where
  query : Nat
  outcome : Outcome Data
deriving DecidableEq, Repr

structure System (Load Data : Type) where
  cell : Cell Load Data := {}
  flights : List (Flight Load) := []
  landings : List (Landing Load Data) := []
  unannounced : List Nat := []
  waiting : List Waiter := []
  answers : List (Answer Data) := []
  reports : List Failure := []
deriving DecidableEq, Repr

inductive Event (Load Data : Type) where
  /-- A load is requested; it starts at once only while events are being served. -/
  | request (serving : Bool) (load : Load)
  | ask (query : Nat)
  | land (number : Nat) (outcome : Outcome Data)
  | announce (number : Nat)
  | resume (query : Nat)
deriving DecidableEq, Repr

namespace System

def start (system : System Load Data) : System Load Data :=
  match system.cell.pending with
  | none => system
  | some load =>
      let number := system.cell.generation
      { system with
        cell := { system.cell with pending := none, task := some number },
        flights := system.flights ++ [⟨number, load⟩] }

def request (system : System Load Data) (serving : Bool) (load : Load) : System Load Data :=
  let cell := { system.cell with
    generation := system.cell.generation + 1, pending := some load }
  let system := { system with cell }
  if serving then system.start else system

def answer (system : System Load Data) (query : Nat) (outcome : Outcome Data) :
    System Load Data :=
  { system with answers := system.answers ++ [⟨query, outcome⟩] }

def ask (system : System Load Data) (query : Nat) : System Load Data :=
  let system := system.start
  match system.cell.task with
  | some number => { system with waiting := system.waiting ++ [⟨query, number⟩] }
  | none =>
      match system.cell.data with
      | some data => system.answer query (.loaded data)
      | none => system.answer query (.failed (system.cell.failure.getD .notLoaded))

def passedOn : Outcome Data → Outcome Data
  | .failed failure => .failed failure.asLoad
  | outcome => outcome

/-- Ends a load that is in flight.  Only the last one requested changes the cell. -/
def land (system : System Load Data) (number : Nat) (outcome : Outcome Data) :
    System Load Data :=
  match system.flights.find? (fun flight => flight.number == number) with
  | none => system
  | some flight =>
      let outcome := passedOn outcome
      { system with
        cell :=
          if number = system.cell.generation then system.cell.settle outcome else system.cell,
        flights := system.flights.filter (fun flight => flight.number != number),
        landings := system.landings ++ [⟨flight, outcome⟩],
        unannounced := system.unannounced ++ [number] }

def landing? (system : System Load Data) (number : Nat) : Option (Outcome Data) :=
  (system.landings.find? (fun landing => landing.number == number)).map (·.outcome)

/-- Announces the end of a load: a failure of the last one requested is reported, and a cancelled
one is no longer waited for. -/
def announce (system : System Load Data) (number : Nat) : System Load Data :=
  if system.unannounced.contains number then
    let system := { system with unannounced := system.unannounced.erase number }
    match system.landing? number with
    | some .cancelled =>
        if system.cell.task = some number then
          { system with cell := { system.cell with task := none } }
        else
          system
    | some (.failed failure) =>
        if number = system.cell.generation then
          { system with reports := system.reports ++ [failure] }
        else
          system
    | some (.loaded _) | none => system
  else
    system

/-- Answers a query whose load has ended.  After a failure a value that is there is given. -/
def resume (system : System Load Data) (query : Nat) : System Load Data :=
  match system.waiting.find? (fun waiter => waiter.query == query) with
  | none => system
  | some waiter =>
      match system.landing? waiter.number with
      | none => system
      | some outcome =>
          let system := { system with
            waiting := system.waiting.filter (fun waiter => waiter.query != query) }
          match outcome, system.cell.data with
          | .failed _, some data => system.answer query (.loaded data)
          | outcome, _ => system.answer query outcome

def step (system : System Load Data) : Event Load Data → System Load Data
  | .request serving load => system.request serving load
  | .ask query => system.ask query
  | .land number outcome => system.land number outcome
  | .announce number => system.announce number
  | .resume query => system.resume query

def run (system : System Load Data) (events : List (Event Load Data)) : System Load Data :=
  events.foldl step system

@[simp]
theorem run_nil (system : System Load Data) : system.run [] = system := rfl

@[simp]
theorem run_cons (system : System Load Data) (event : Event Load Data)
    (events : List (Event Load Data)) :
    system.run (event :: events) = (system.step event).run events := rfl

theorem run_append (system : System Load Data) (first second : List (Event Load Data)) :
    system.run (first ++ second) = (system.run first).run second :=
  List.foldl_append

def landingEvents (ends : Flight Load → Option (Outcome Data)) (system : System Load Data) :
    List (Event Load Data) :=
  system.flights.filterMap (fun flight => (ends flight).map (.land flight.number))

def announceEvents (system : System Load Data) : List (Event Load Data) :=
  system.unannounced.map .announce

def resumeEvents (system : System Load Data) : List (Event Load Data) :=
  (system.waiting.filter (fun waiter => (system.landing? waiter.number).isSome)).map
    (fun waiter => .resume waiter.query)

/-- Lets everything happen that can: loads end as `ends` says, their ends are announced, and the
queries that waited for them go on. -/
def settle (ends : Flight Load → Option (Outcome Data)) (system : System Load Data) :
    System Load Data :=
  let system := system.run (system.landingEvents ends)
  let system := system.run system.announceEvents
  system.run system.resumeEvents

def report (system : System Load Data) (failure : Failure) : System Load Data :=
  { system with reports := system.reports ++ [failure] }

def answer? (system : System Load Data) (query : Nat) : Option (Outcome Data) :=
  (system.answers.find? (fun answer => answer.query == query)).map (·.outcome)

end System

end Loading

end InputDeck
