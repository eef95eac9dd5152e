import InputDeck.Number.Typed
import InputDeck.Value.Basic

/-!
Checking data against the form it should have.  All faults of a value are collected, each with
the way from the value to the part at fault.
-/

namespace InputDeck

inductive Step where
  | field (name : String)
  | index (position : Nat)
deriving DecidableEq, Repr

inductive FaultKind where
  | missing
  | notText
  | undecodable
  | notList
  | notMap
  | notMember
  | unreadableInteger
  | oversizedInteger
  | notInteger
  | fractional
  | notFinite
  | notPath
  /-- The parts are right, but not together, or the value cannot be written. -/
  | inconsistent
  | tooDeep
deriving DecidableEq, Repr

def FaultKind.label : FaultKind → String
  | missing => "missing"
  | notText => "string_type"
  | undecodable => "string_unicode"
  | notList => "list_type"
  | notMap => "model_type"
  | notMember => "enum"
  | unreadableInteger => "int_parsing"
  | oversizedInteger => "int_parsing_size"
  | notInteger => "int_type"
  | fractional => "int_from_float"
  | notFinite => "finite_number"
  | notPath => "path_type"
  | inconsistent => "value_error"
  | tooDeep => "recursion_loop"

structure Fault where
  location : List Step
  kind : FaultKind
deriving DecidableEq, Repr

/-- A checked value, or all its faults in order. -/
abbrev Checked (α : Type) := Except (List Fault) α

namespace Checked

def fault (kind : FaultKind) : Checked α :=
  .error [⟨[], kind⟩]

def within (step : Step) : Checked α → Checked α
  | .ok a => .ok a
  | .error faults =>
      .error (faults.map (fun fault => { fault with location := step :: fault.location }))

/-- Applies a checked function, with the faults of both sides. -/
def apply (f : Checked (α → β)) (a : Checked α) : Checked β :=
  match f, a with
  | .ok f, .ok a => .ok (f a)
  | .ok _, .error faults => .error faults
  | .error faults, .ok _ => .error faults
  | .error first, .error second => .error (first ++ second)

def items (check : Value → Checked α) : Nat → List Value → Checked (List α)
  | _, [] => .ok []
  | position, item :: rest =>
      apply (apply (.ok List.cons) (within (.index position) (check item)))
        (items check (position + 1) rest)

def list (check : Value → Checked α) (value : Value) : Checked (List α) :=
  match value.items? with
  | some values => items check 0 values
  | none => fault .notList

def text : Value → Checked Text
  | .text t => .ok t
  | .bytes bytes =>
      match Text.ofBytes? bytes with
      | some t => .ok t
      | none => fault .undecodable
  | _ => fault .notText

def optional (check : Value → Checked α) : Value → Checked (Option α)
  | .null => .ok none
  | value => (check value).map some

def required (name : String) (check : Value → Checked α) (entries : List (Value × Value)) :
    Checked α :=
  within (.field name)
    (match Value.lookup name.toList entries with
    | some value => check value
    | none => fault .missing)

def defaulted (name : String) (default : α) (check : Value → Checked α)
    (entries : List (Value × Value)) : Checked α :=
  within (.field name)
    (match Value.lookup name.toList entries with
    | some value => check value
    | none => .ok default)

/-- The bound on the size of a whole number that is given as a double. -/
def wordBound : Nat := 9223372036854775808

/-- Checks a whole number, which may be written as text. -/
def integer : Value → Checked Int
  | .int number => .ok number
  | .bool flag => .ok (if flag then 1 else 0)
  | .float number =>
      match number, number.whole? with
      | _, some whole =>
          if whole.natAbs < wordBound then .ok whole else fault .oversizedInteger
      | .finite _ _ _, none => fault .fractional
      | _, none => fault .notFinite
  | .text t =>
      match Typed.read t with
      | .ok number => .ok number
      | .error .malformed => fault .unreadableInteger
      | .error .tooLong => fault .oversizedInteger
  | _ => fault .notInteger

@[simp]
theorem within_ok (step : Step) (a : α) : within step (.ok a) = .ok a := rfl

@[simp]
theorem apply_ok (f : α → β) (a : α) : apply (.ok f) (.ok a) = .ok (f a) := rfl

end Checked

end InputDeck
