import InputDeck.Loading.Cell

/-!
Loads whose end is fixed beforehand, and which may wait until they are released.
-/

namespace InputDeck

namespace Loading

open Schema (Failure)

structure Trial where
  name : Text
  outcome : Outcome Text
  held : Bool
deriving DecidableEq, Repr

inductive Ending where
  | data
  | failure
  | other
deriving DecidableEq, Repr

def Trial.make (name : Text) (ending : Ending) (held : Bool) : Trial :=
  { name, held,
    outcome :=
      match ending with
      | .data => .loaded name
      | .failure => .failed (.broken (name.string ++ " failed"))
      | .other => .failed (.stray (name.string ++ " broke")) }

structure Rehearsal where
  system : System Trial Text := {}
  released : List Text := []
  started : List (Text × Nat) := []
deriving DecidableEq, Repr

namespace Rehearsal

def request (rehearsal : Rehearsal) (serving : Bool) (trial : Trial) : Rehearsal :=
  let system := rehearsal.system.step (.request serving trial)
  { rehearsal with
    system,
    started :=
      if serving then (trial.name, system.cell.generation) :: rehearsal.started
      else rehearsal.started }

def release (rehearsal : Rehearsal) (name : Text) : Rehearsal :=
  { rehearsal with released := name :: rehearsal.released }

def ask (rehearsal : Rehearsal) (query : Nat) : Rehearsal :=
  { rehearsal with system := rehearsal.system.step (.ask query) }

/-- The load to cancel: that of a name, or the one that the cell waits for. -/
def target? (rehearsal : Rehearsal) (name : Option Text) : Option Nat :=
  match name with
  | some name => rehearsal.started.lookup name
  | none => rehearsal.system.cell.task

def settle (rehearsal : Rehearsal) (cancelled : Option Nat) : Rehearsal :=
  { rehearsal with
    system := rehearsal.system.settle (fun flight =>
      if some flight.number = cancelled then some .cancelled
      else if flight.load.held && !rehearsal.released.contains flight.load.name then none
      else some flight.load.outcome) }

end Rehearsal

end Loading

end InputDeck
