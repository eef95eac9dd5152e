import InputDeck.Value.Basic

/-!
When two scalars are one key of a map.  Numbers are compared by their size, and moments by the
common clock.
-/

namespace InputDeck

namespace Moment

def dayNumber (moment : Moment) : Int :=
  let year : Int := if moment.month ≤ 2 then (moment.year : Int) - 1 else moment.year
  let month := (moment.month + 9) % 12
  year * 365 + year / 4 - year / 100 + year / 400 + ((month * 153 + 2) / 5 : Nat) + moment.day

def instant (moment : Moment) : Int :=
  let ahead := (moment.zone.map (·.minutes)).getD 0
  moment.dayNumber * 86400000000 + moment.time.getD 0 - ahead * 60000000

/-- Whether two moments are one: days without a time, times by clocks of no zone, and times by
clocks of known zones are different things. -/
def isSame (first second : Moment) : Bool :=
  first.time.isSome == second.time.isSome && first.zone.isSome == second.zone.isSome &&
    first.instant == second.instant

end Moment

namespace Value

/-- A number in the form in which it is compared with others.  Truth values count as one and
zero. -/
def number? : Value → Option (Int ⊕ Binary64)
  | bool flag => some (.inl (if flag then 1 else 0))
  | int number => some (.inl number)
  | float number =>
      match number.whole? with
      | some whole => some (.inl whole)
      | none => some (.inr number)
  | _ => none

/-- Whether two scalars are one key.  Numbers are compared by their size. -/
def isSameScalar : Value → Value → Bool
  | null, null => true
  | text a, text b => a == b
  | bytes a, bytes b => a == b
  | moment a, moment b => a.isSame b
  | a, b => a.number?.isSome && a.number? == b.number?

end Value

end InputDeck
