import InputDeck.Yaml.Error

/-!
Days and times of day in text, and the moments they stand for.
-/

namespace InputDeck

namespace Yaml

structure Timestamp where
  year : Nat
  month : Nat
  day : Nat
  /-- Hours, minutes, seconds, the digits of a fraction, and the zone. -/
  time : Option (Nat × Nat × Nat × Text × Option Zone) := none
  padded : Bool

namespace Timestamp

def oneOrTwo (text : Text) : Option (Nat × Text) :=
  let digits := (text.take 2).takeWhile Digits.isDecimal
  if digits.isEmpty then none else some (Digits.read 10 digits, text.drop digits.length)

def two (text : Text) : Option (Nat × Text) := do
  let (number, rest) ← oneOrTwo text
  if text.length = rest.length + 2 then some (number, rest) else none

def skipGap (text : Text) : Text :=
  text.dropWhile (fun c => c == ' ' || c == '\t')

def zone? (text : Text) : Option (Option Zone) :=
  match skipGap text with
  | [] => if text.isEmpty then some none else none
  | ['Z'] => some (some ⟨0, ['Z']⟩)
  | sign :: rest => do
      if !(sign == '-' || sign == '+') then none
      let (hours, after) ← oneOrTwo rest
      let minutes ←
        match after with
        | [] => some 0
        | ':' :: after => do
            let (minutes, after) ← two after
            if after.isEmpty then some minutes else none
        | _ => none
      let size : Int := hours * 60 + minutes
      return some ⟨if sign == '-' then -size else size, sign :: rest⟩

/-- Reads a time of day, which may follow a gap or a letter. -/
def time? (text : Text) : Option (Nat × Nat × Nat × Text × Option Zone) := do
  let start ←
    match text with
    | 'T' :: rest | 't' :: rest => some rest
    | ' ' :: _ | '\t' :: _ => some (skipGap text)
    | _ => none
  let (hours, rest) ← oneOrTwo start
  let (minutes, rest) ← (Text.dropStart? [':'] rest).bind two
  let (seconds, rest) ← (Text.dropStart? [':'] rest).bind two
  let (fraction, rest) : Text × Text :=
    match rest with
    | '.' :: rest => (rest.takeWhile Digits.isDecimal, rest.dropWhile Digits.isDecimal)
    | _ => ([], rest)
  return (hours, minutes, seconds, fraction, ← zone? rest)

def read? (text : Text) : Option Timestamp := do
  let years := text.take 4
  if !(years.length == 4 && years.all Digits.isDecimal) then none
  let year := Digits.read 10 years
  let (month, rest) ← (Text.dropStart? ['-'] (text.drop 4)).bind oneOrTwo
  let (day, rest) ← (Text.dropStart? ['-'] rest).bind oneOrTwo
  let padded := text.length = rest.length + 10
  if rest.isEmpty then
    return { year, month, day, padded }
  else
    return { year, month, day, time := some (← time? rest), padded }

def isLeap (year : Nat) : Bool :=
  year % 4 == 0 && (year % 100 != 0 || year % 400 == 0)

def daysInMonth (year month : Nat) : Nat :=
  if month == 2 then (if isLeap year then 29 else 28)
  else if [4, 6, 9, 11].contains month then 30
  else 31

def nextDay (moment : Moment) : Moment :=
  if moment.day < daysInMonth moment.year moment.month then
    { moment with day := moment.day + 1 }
  else if moment.month < 12 then
    { moment with month := moment.month + 1, day := 1 }
  else
    { moment with year := moment.year + 1, month := 1, day := 1 }

/-- Microseconds of the digits after a point, rounded. -/
def micros (digits : Text) : Nat :=
  let shown := digits.take 6
  let size := Digits.read 10 (shown ++ List.replicate (6 - shown.length) '0')
  match digits.drop 6 with
  | next :: _ => if 4 < next.toNat - 48 then size + 1 else size
  | [] => size

def dayLength : Nat := 86400000000

def date (stamp : Timestamp) : Except Error Moment :=
  if stamp.year = 0 then .error (.noMoment .year)
  else if stamp.month = 0 ∨ 12 < stamp.month then .error (.noMoment .month)
  else if stamp.day = 0 ∨ daysInMonth stamp.year stamp.month < stamp.day then
    .error (.noMoment .day)
  else .ok { year := stamp.year, month := stamp.month, day := stamp.day }

/-- The moment that a text stands for.  A fraction that is rounded up may end the day. -/
def moment (stamp : Timestamp) : Except Error Moment := do
  match stamp.time with
  | none => stamp.date
  | some (hours, minutes, seconds, fraction, zone) =>
      if let some zone := zone then
        if 1440 ≤ zone.minutes.natAbs then .error (.zoneTooFar zone.minutes)
      let date ← stamp.date
      if 23 < hours then .error (.noMoment .hour)
      if 59 < minutes then .error (.noMoment .minute)
      if 59 < seconds then .error (.noMoment .second)
      let time := ((hours * 60 + minutes) * 60 + seconds) * 1000000 + micros fraction
      if time < dayLength then
        return { date with time := some time, zone }
      else
        let next := nextDay { date with time := some (time - dayLength), zone }
        if 9999 < next.year then .error .afterLastYear
        return next

end Timestamp

end Yaml

end InputDeck
