import InputDeck.Number.Numeral
import InputDeck.Text.Half
import InputDeck.Value.Basic

/-!
Reading JSON.  Members keep the order of the text; of two members with one key the last value
stands in the first place.  `NaN`, `Infinity` and `-Infinity` are numbers.
-/

namespace InputDeck

namespace Json

inductive Container where
  | list
  | map
deriving DecidableEq, Repr

def Container.label : Container → String
  | list => "array"
  | map => "object"

inductive Error where
  | malformed
  | noNumber (error : Numeral.Error)
  | tooNested (container : Container)
deriving DecidableEq, Repr

def Error.message : Error → String
  | malformed => "malformed"
  | noNumber error => error.message
  | tooNested container =>
      s!"maximum recursion depth exceeded while decoding a JSON {container.label} " ++
        "from a unicode string"

def nestingLimit : Nat := 990

def isGap (c : Char) : Bool :=
  c == ' ' || c == '\t' || c == '\n' || c == '\r'

def skipGap (text : Text) : Text :=
  text.dropWhile isGap

def code? : Text → Option (Nat × Text)
  | a :: b :: c :: d :: rest =>
      if [a, b, c, d].all (Digits.isDigitOf 16) then
        some (Digits.read 16 [a, b, c, d], rest)
      else
        none
  | _ => none

/-- The character of an escape with four digits; two halves of a pair are one character. -/
def readCode (text : Text) : Option (Char × Text) := do
  let (code, rest) ← code? text
  let alone := (Text.charOfCode code, rest)
  if 0xD800 ≤ code ∧ code < 0xDC00 then
    match rest with
    | '\\' :: 'u' :: more =>
        match code? more with
        | some (low, after) =>
            if 0xDC00 ≤ low ∧ low < 0xE000 then
              some (Char.ofNat (0x10000 + (code - 0xD800) * 1024 + (low - 0xDC00)), after)
            else
              some alone
        | none => some alone
    | _ => some alone
  else
    some alone

def escape? : Char → Option Char
  | '"' => some '"'
  | '\\' => some '\\'
  | '/' => some '/'
  | 'b' => some '\x08'
  | 'f' => some '\x0c'
  | 'n' => some '\n'
  | 'r' => some '\r'
  | 't' => some '\t'
  | _ => none

/-- Reads the rest of a string after its opening mark.  The characters before are kept last
first. -/
def readString : Nat → Text → Text → Option (Text × Text)
  | 0, _, _ => none
  | _ + 1, _, [] => none
  | _ + 1, before, '"' :: rest => some (before.reverse, rest)
  | fuel + 1, before, '\\' :: 'u' :: rest => do
      let (c, rest) ← readCode rest
      readString fuel (c :: before) rest
  | fuel + 1, before, '\\' :: letter :: rest => do
      let c ← escape? letter
      readString fuel (c :: before) rest
  | fuel + 1, before, c :: rest =>
      if c == '\\' || c.toNat < 32 then none else readString fuel (c :: before) rest

def stringAfter (text : Text) : Except Error (Text × Text) :=
  match readString (text.length + 1) [] text with
  | some found => .ok found
  | none => .error .malformed

def spanDigits (text : Text) : Text × Text :=
  (text.takeWhile Digits.isDecimal, text.dropWhile Digits.isDecimal)

def readFraction (text : Text) : Text × Text :=
  match text with
  | '.' :: rest =>
      match spanDigits rest with
      | ([], _) => ([], text)
      | found => found
  | _ => ([], text)

def readExponent (text : Text) : Option Int × Text :=
  match text with
  | mark :: rest =>
      if mark == 'e' || mark == 'E' then
        let (negative, digits) :=
          match rest with
          | '-' :: digits => (true, digits)
          | '+' :: digits => (false, digits)
          | digits => (false, digits)
        match spanDigits digits with
        | ([], _) => (none, text)
        | (digits, rest) =>
            let size : Int := Digits.read 10 digits
            (some (if negative then -size else size), rest)
      else
        (none, text)
  | [] => (none, text)

def wholeNumber (negative : Bool) (digits : Text) : Except Error Value :=
  if Digits.countLimit < digits.length then
    .error (.noNumber (.tooLong digits.length))
  else
    let size : Int := Digits.read 10 digits
    .ok (.int (if negative then -size else size))

def readMagnitude (negative : Bool) (text : Text) : Except Error (Value × Text) := do
  let (digits, rest) :=
    match text with
    | '0' :: rest => (['0'], rest)
    | _ => spanDigits text
  if digits.isEmpty then
    .error .malformed
  let (fraction, rest) := readFraction rest
  let (power, rest) := readExponent rest
  if fraction.isEmpty && power.isNone then
    return (← wholeNumber negative digits, rest)
  else
    let exponent := power.getD 0 - fraction.length
    return (.float (.ofDecimal negative (Digits.read 10 (digits ++ fraction)) exponent), rest)

def words : List (Text × Value) := [
  ("null".toList, .null),
  ("true".toList, .bool true),
  ("false".toList, .bool false),
  ("NaN".toList, .float .nan),
  ("Infinity".toList, .float (.infinite false)),
  ("-Infinity".toList, .float (.infinite true))]

def readScalar (text : Text) : Except Error (Value × Text) :=
  let word := words.findSome? (fun (word, value) =>
    (Text.dropStart? word text).map (fun rest => (value, rest)))
  match word with
  | some found => .ok found
  | none =>
      match text with
      | '-' :: rest => readMagnitude true rest
      | _ => readMagnitude false text

def setMember (key : Text) (value : Value) :
    List (Value × Value) → List (Value × Value)
  | [] => [(.text key, value)]
  | (.text name, old) :: rest =>
      if name = key then (.text name, value) :: rest
      else (.text name, old) :: setMember key value rest
  | entry :: rest => entry :: setMember key value rest

mutual

/-- Reads a value at the start of a text, with a number of levels of collections at most. -/
def readValue : Nat → (levels : Nat) → Text → Except Error (Value × Text)
  | 0, _, _ => .error .malformed
  | fuel + 1, levels, text =>
      match text, levels with
      | '"' :: rest, _ => do
          let (t, rest) ← stringAfter rest
          return (.text t, rest)
      | '[' :: _, 0 => .error (.tooNested .list)
      | '{' :: _, 0 => .error (.tooNested .map)
      | '[' :: rest, below + 1 =>
          match skipGap rest with
          | ']' :: rest => .ok (.list [], rest)
          | rest => do
              let (items, rest) ← readItems fuel below [] rest
              return (.list items, rest)
      | '{' :: rest, below + 1 =>
          match skipGap rest with
          | '}' :: rest => .ok (.map [], rest)
          | rest => do
              let (members, rest) ← readMembers fuel below [] rest
              return (.map members, rest)
      | _, _ => readScalar text

def readItems : Nat → (levels : Nat) → List Value → Text → Except Error (List Value × Text)
  | 0, _, _, _ => .error .malformed
  | fuel + 1, levels, before, text => do
      let (item, rest) ← readValue fuel levels text
      match skipGap rest with
      | ',' :: rest => readItems fuel levels (item :: before) (skipGap rest)
      | ']' :: rest => return ((item :: before).reverse, rest)
      | _ => .error .malformed

def readMembers : Nat → (levels : Nat) → List (Value × Value) → Text →
    Except Error (List (Value × Value) × Text)
  | 0, _, _, _ => .error .malformed
  | fuel + 1, levels, before, text =>
      match text with
      | '"' :: rest => do
          let (key, rest) ← stringAfter rest
          match skipGap rest with
          | ':' :: rest =>
              let (value, rest) ← readValue fuel levels (skipGap rest)
              let members := setMember key value before
              match skipGap rest with
              | ',' :: rest => readMembers fuel levels members (skipGap rest)
              | '}' :: rest => return (members, rest)
              | _ => .error .malformed
          | _ => .error .malformed
      | _ => .error .malformed

end

def read (text : Text) : Except Error Value := do
  let (value, rest) ← readValue (2 * text.length + 2) nestingLimit (skipGap text)
  if (skipGap rest).isEmpty then return value else .error .malformed

end Json

end InputDeck
