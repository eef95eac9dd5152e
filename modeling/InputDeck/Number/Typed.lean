import InputDeck.Number.Digits
import InputDeck.Text.Blank

/-!
Whole numbers as people type them: with white space around, a plus sign, zeros in front, single
underscores between digits, or a fraction of zeros.
-/

namespace InputDeck

namespace Typed

inductive Error where
  | malformed
  | tooLong
deriving DecidableEq, Repr

/-- Reads digits without zeros in front, which a minus sign may precede.  The sign counts as a
digit in the limit on their number. -/
def readPlain (text : Text) : Except Error Int :=
  let (negative, digits) :=
    match text with
    | '-' :: rest => (true, rest)
    | _ => (false, text)
  let run := digits.takeWhile Digits.isDecimal
  if run.isEmpty || (run.head? == some '0' && run.length != 1) then
    .error .malformed
  else if Digits.countLimit < run.length + (if negative then 1 else 0) then
    .error .tooLong
  else if run.length < digits.length then
    .error .malformed
  else
    let size : Int := Digits.read 10 run
    .ok (if negative then -size else size)

/-- What follows the zeros in front, and underscores among them.  The character before a point
stays, as does the last one of all. -/
def afterZeros (last : Char) : Text → Option Text
  | [] => some [last]
  | c :: rest =>
      if c == '0' || c == '_' then afterZeros c rest
      else if c == '.' then some (last :: c :: rest)
      else if c == '-' || Digits.isDecimal c then some (c :: rest)
      else none

def withoutZeros? : Text → Option Text
  | '0' :: rest => afterZeros '0' rest
  | c :: rest => if c == '-' || Digits.isDecimal c then some (c :: rest) else none
  | [] => none

def withoutFraction (text : Text) : Text :=
  match text.dropWhile (· != '.') with
  | _ :: zeros =>
      if !zeros.isEmpty && zeros.all (· == '0') then text.takeWhile (· != '.') else text
  | [] => text

def ungrouped (text : Text) : Text :=
  let groups := Text.splitOn '_' text
  if groups.all (fun group => !group.isEmpty) then groups.flatten else text

def cleanBody? (text : Text) : Option Text :=
  (withoutZeros? text).map (fun digits => ungrouped (withoutFraction digits))

/-- A number that readers of plain digits can read, if there is one.  At most one sign is
allowed. -/
def clean? (text : Text) : Option Text :=
  let text := Text.trimBy Text.isPadding text
  match text with
  | '+' :: '-' :: _ | '-' :: '-' :: _ => none
  | '+' :: rest => cleanBody? rest
  | '-' :: rest => (cleanBody? rest).map ('-' :: ·)
  | _ => cleanBody? text

def read (text : Text) : Except Error Int :=
  match readPlain text with
  | .error .malformed =>
      match clean? text with
      | some cleaned => readPlain cleaned
      | none => .error .malformed
  | result => result

end Typed

end InputDeck
