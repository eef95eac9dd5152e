import InputDeck.Base64
import InputDeck.Text.Lower
import InputDeck.Yaml.Form
import InputDeck.Yaml.Timestamp

/-!
From the text of scalars to their tags and values.  The tag of a plain scalar follows from its
form; a value is read more liberally than its form, since a tag may be given to any text.
-/

namespace InputDeck

namespace Yaml

def resolve (version : Version) (text : Text) : Tag :=
  let line := if text.getLast? == some '\n' then text.dropLast else text
  let isMoment := fun (stamp : Timestamp) => stamp.padded || stamp.time.isSome
  if text.isEmpty then .null
  else if line.isEmpty then .text
  else if Form.isBool version line then .bool
  else if Form.isFloat version line then .float
  else if Form.isInt version line then .int
  else if line == ['<', '<'] then .merge
  else if Form.isNull line then .null
  else if (Timestamp.read? line).any isMoment then .moment
  else if line == ['='] then .default
  else if [['!'], ['&'], ['*']].contains line then .unknown
  else .text

def ungrouped (text : Text) : Text :=
  text.filter (· != '_')

def truthValue (text : Text) : Except Error Bool :=
  let word := Text.lower text
  if Form.isWord ["yes", "y", "true", "on"] word then .ok true
  else if Form.isWord ["no", "n", "false", "off"] word then .ok false
  else .error (.noTruthValue word)

def wholeOf (base : Nat) (text : Text) : Except Error Int :=
  match Numeral.whole base text with
  | .ok number => .ok number
  | .error error => .error (.noWholeNumber error)

def wholeSize (version : Version) (text : Text) : Except Error Int :=
  match text with
  | ['0'] => .ok 0
  | '0' :: 'b' :: digits => wholeOf 2 digits
  | '0' :: 'x' :: digits => wholeOf 16 digits
  | '0' :: 'o' :: digits => wholeOf 8 digits
  | _ =>
      match version with
      | .second => wholeOf 10 text
      | .first => do
          if text.isEmpty then .error .emptyNumber
          else if text.head? == some '0' then wholeOf 8 text
          else
            let parts ← (Text.splitOn ':' text).mapM (wholeOf 10)
            return parts.foldl (fun total part => total * 60 + part) 0

def wholeNumber (version : Version) (text : Text) : Except Error Int := do
  let text := ungrouped text
  if text.isEmpty then .error .emptyNumber
  let (negative, body) := Numeral.splitSign text
  let size ← wholeSize version body
  return if negative then -size else size

def decimalOf (text : Text) : Except Error Binary64 :=
  match Numeral.decimal? text with
  | some number => .ok number
  | none => .error (.noDecimal text)

/-- The sum of parts of sixty, the last one first, each worth `unit`. -/
def sumOfSixties (total : Binary64) (unit : Nat) : List Binary64 → Except Error Binary64
  | [] => .ok total
  | part :: rest =>
      match Binary64.ofQuotient false unit 1 with
      | .finite _ significand exponent =>
          let (num, den) := Binary64.quotient significand exponent
          sumOfSixties (total.add (part.scale (num / den))) (unit * 60) rest
      | _ => .error .tooLargeForDecimal

def decimalSize (version : Version) (text : Text) : Except Error Binary64 := do
  if text = ".inf".toList then
    return .infinite false
  else if version == .second then
    decimalOf text
  else if text.contains ':' then
    let parts ← (Text.splitOn ':' text).mapM decimalOf
    sumOfSixties (.zero false) 1 parts.reverse
  else if 2 < (Text.splitOn 'e' text).length then
    .error .manyExponents
  else
    decimalOf text

/-- The decimal that a text stands for; none, if it is the word for a number that is none. -/
def decimal? (version : Version) (text : Text) : Except Error (Option Binary64) := do
  let text := Text.lower (ungrouped text)
  if text.isEmpty then .error .emptyNumber
  let (negative, body) := Numeral.splitSign text
  if body = ".nan".toList then
    return none
  else
    let size ← decimalSize version body
    return some (if negative then size.negate else size)

def moment (text : Text) : Except Error Moment :=
  let line := if text.getLast? == some '\n' then text.dropLast else text
  match Timestamp.read? line with
  | some stamp => stamp.moment
  | none => .error .malformed

def bytes (text : Text) : Except Error (List UInt8) :=
  if text.all (fun c => c.toNat < 128) then
    match Base64.decode? text with
    | some bytes => .ok bytes
    | none => .error .malformed
  else
    .error .malformed

end Yaml

end InputDeck
