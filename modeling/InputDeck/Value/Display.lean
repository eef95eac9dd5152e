import InputDeck.Number.Shortest
import InputDeck.Text.Quoted
import InputDeck.Value.Basic

/-!
The text of a value.  On its own a text stands for itself; inside lists and maps it is quoted.
-/

namespace InputDeck

namespace Moment

def padded (count n : Nat) : Text :=
  let digits := Digits.write n
  List.replicate (count - digits.length) '0' ++ digits

def clock (time : Nat) : Nat × Nat × Nat × Nat :=
  (time / 3600000000, time / 60000000 % 60, time / 1000000 % 60, time % 1000000)

def offset (zone : Zone) : Text :=
  let size := zone.minutes.natAbs
  (if zone.minutes < 0 then '-' else '+') :: padded 2 (size / 60) ++ ':' :: padded 2 (size % 60)

def display (moment : Moment) : Text :=
  let day := padded 4 moment.year ++ '-' :: padded 2 moment.month ++ '-' :: padded 2 moment.day
  match moment.time with
  | none => day
  | some time =>
      let (hours, minutes, seconds, micros) := clock time
      let clock := padded 2 hours ++ ':' :: padded 2 minutes ++ ':' :: padded 2 seconds
      let fraction := if micros = 0 then [] else '.' :: padded 6 micros
      day ++ ' ' :: clock ++ fraction ++ (moment.zone.map offset).getD []

/-- A length of time in minutes as a call with whole days and the seconds left. -/
def displaySpan (minutes : Int) : Text :=
  let days := minutes / 1440
  let seconds := minutes % 1440 * 60
  let parts :=
    (if days = 0 then [] else ["days=".toList ++ Digits.writeInt days]) ++
      if seconds = 0 then [] else ["seconds=".toList ++ Digits.writeInt seconds]
  let shown := if parts.isEmpty then ['0'] else Text.joinWith ", ".toList parts
  "datetime.timedelta(".toList ++ shown ++ [')']

def displayZone (zone : Zone) : Text :=
  "tzinfo=datetime.timezone(".toList ++ displaySpan zone.minutes ++ ", ".toList ++
    Text.quoted zone.name ++ [')']

def displayInside (moment : Moment) : Text :=
  let day := [moment.year, moment.month, moment.day]
  let (call, parts) : String × List Nat :=
    match moment.time with
    | none => ("datetime.date", day)
    | some time =>
        let (hours, minutes, seconds, micros) := clock time
        let rest :=
          if micros ≠ 0 then [seconds, micros] else if seconds ≠ 0 then [seconds] else []
        ("datetime.datetime", day ++ [hours, minutes] ++ rest)
  let arguments := parts.map Digits.write ++ (moment.zone.map displayZone).toList
  call.toList ++ '(' :: Text.joinWith ", ".toList arguments ++ [')']

end Moment

namespace Value

def listed (items : List Text) : Text :=
  Text.joinWith ", ".toList items

mutual

/-- The text of a value inside a list or map.  A comma marks the tuple of one item, and an empty
set is a call. -/
def displayInside : Value → Text
  | null => "None".toList
  | bool true => "True".toList
  | bool false => "False".toList
  | int number => Digits.writeInt number
  | float number => Shortest.write number
  | text t => Text.quoted t
  | bytes b => Text.quotedBytes b
  | moment m => m.displayInside
  | list items => '[' :: listed (displayItems items) ++ [']']
  | tuple items =>
      match displayItems items with
      | [item] => '(' :: item ++ ",)".toList
      | items => '(' :: listed items ++ [')']
  | set members =>
      match displayItems members with
      | [] => "set()".toList
      | members => '{' :: listed members ++ ['}']
  | map items => '{' :: listed (displayEntries items) ++ ['}']
  | ordered items =>
      match displayPairs items with
      | [] => "ordereddict()".toList
      | pairs => "ordereddict([".toList ++ listed pairs ++ "])".toList
  | again .list => "[...]".toList
  | again .map => "\x7b...\x7d".toList
  | again .ordered => "...".toList

def displayItems : List Value → List Text
  | [] => []
  | item :: rest => item.displayInside :: displayItems rest

def displayEntries : List (Value × Value) → List Text
  | [] => []
  | (key, item) :: rest =>
      (key.displayInside ++ ": ".toList ++ item.displayInside) :: displayEntries rest

def displayPairs : List (Value × Value) → List Text
  | [] => []
  | (key, item) :: rest =>
      ('(' :: key.displayInside ++ ", ".toList ++ item.displayInside ++ [')']) ::
        displayPairs rest

end

mutual

/-- Whether all numbers of a value can be written within the limit on digits. -/
def isWritable : Value → Bool
  | int number => Digits.isWritable number.natAbs
  | list items | tuple items | set items => areWritable items
  | map items | ordered items => entriesAreWritable items
  | null | bool _ | float _ | text _ | bytes _ | moment _ | again _ => true

def areWritable : List Value → Bool
  | [] => true
  | item :: rest => item.isWritable && areWritable rest

def entriesAreWritable : List (Value × Value) → Bool
  | [] => true
  | (key, item) :: rest => key.isWritable && item.isWritable && entriesAreWritable rest

end

def display : Value → Text
  | text t => t
  | moment m => m.display
  | value => value.displayInside

end Value

end InputDeck
