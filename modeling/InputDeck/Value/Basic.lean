import InputDeck.Number.Binary64

/-!
Data as schema dumps hold it: scalars, lists, tuples, sets, and maps that keep the order of their
entries.
-/

namespace InputDeck

structure Zone where
  minutes : Int
  name : Text
deriving DecidableEq, Repr

/-- A day, with a time of day in microseconds if one is given, and perhaps the zone of the
clock. -/
structure Moment where
  year : Nat
  month : Nat
  day : Nat
  time : Option Nat := none
  zone : Option Zone := none
deriving DecidableEq, Repr

inductive Loop where
  | list
  | map
  | ordered
deriving DecidableEq, Repr

inductive Value where
  | null
  | bool (flag : Bool)
  | int (number : Int)
  | float (number : Binary64)
  | text (text : Text)
  | bytes (bytes : List UInt8)
  | moment (moment : Moment)
  | list (items : List Value)
  | tuple (items : List Value)
  | set (members : List Value)
  | map (entries : List (Value × Value))
  | ordered (entries : List (Value × Value))
  /-- A collection inside itself, which is not followed again. -/
  | again (loop : Loop)
deriving Repr

namespace Value

def sort : Value → String
  | null => "NoneType"
  | bool _ => "bool"
  | int _ => "int"
  | float _ => "float"
  | text _ => "str"
  | bytes _ => "bytes"
  | moment m => if m.time.isSome then "datetime" else "date"
  | list _ | again .list => "list"
  | tuple _ => "tuple"
  | set _ => "set"
  | map _ | again .map => "dict"
  | ordered _ | again .ordered => "ordereddict"

/-- Whether a value counts as present: not null, false, zero or empty. -/
def isGiven : Value → Bool
  | null => false
  | bool flag => flag
  | int number => number != 0
  | float number => !number.isZero
  | text t => !t.isEmpty
  | bytes b => !b.isEmpty
  | moment _ | again _ => true
  | list items | tuple items | set items => !items.isEmpty
  | map items | ordered items => !items.isEmpty

def lookup (key : Text) : List (Value × Value) → Option Value
  | [] => none
  | (.text name, value) :: rest => if name = key then some value else lookup key rest
  | _ :: rest => lookup key rest

def children : Value → List Value
  | list items => items
  | map items | ordered items => items.map Prod.snd
  | _ => []

/-- The entries of a map, however it was written. -/
def entries? : Value → Option (List (Value × Value))
  | map items | ordered items => some items
  | _ => none

def items? : Value → Option (List Value)
  | list items | tuple items | set items => some items
  | _ => none

mutual

def size : Value → Nat
  | list items | tuple items | set items => 1 + sizeItems items
  | map items | ordered items => 1 + sizeEntries items
  | null | bool _ | int _ | float _ | text _ | bytes _ | moment _ | again _ => 1

def sizeItems : List Value → Nat
  | [] => 0
  | item :: rest => item.size + sizeItems rest

def sizeEntries : List (Value × Value) → Nat
  | [] => 0
  | (_, item) :: rest => item.size + sizeEntries rest

end

theorem sizeItems_append (first second : List Value) :
    sizeItems (first ++ second) = sizeItems first + sizeItems second := by
  induction first with
  | nil => simp [sizeItems]
  | cons item rest ih => simp [sizeItems, ih, Nat.add_assoc]

theorem sizeEntries_eq (entries : List (Value × Value)) :
    sizeEntries entries = sizeItems (entries.map Prod.snd) := by
  induction entries with
  | nil => rfl
  | cons entry rest ih =>
      cases entry
      simp [sizeEntries, sizeItems, ih]

theorem size_pos (value : Value) : 0 < value.size := by
  cases value <;> simp only [size] <;> omega

theorem sizeItems_children_lt (value : Value) : sizeItems value.children < value.size := by
  cases value <;> simp only [children, size, sizeItems, sizeEntries_eq] <;> omega

end Value

end InputDeck
