import InputDeck.Number.Binary64
import InputDeck.Text.Numeric
import InputDeck.Text.Quoted

/-!
Numbers written on their own: whole numbers of a base, and decimals.  White space may stand
around them, and the digits may be those of any script.
-/

namespace InputDeck

namespace Numeral

inductive Error where
  | malformed (base : Nat) (text : Text)
  | tooLong (count : Nat)
deriving DecidableEq, Repr

def Error.message : Error → String
  | malformed base text =>
      s!"invalid literal for int() with base {base}: " ++ Text.string ((Text.quoted text).take 200)
  | tooLong count =>
      s!"Exceeds the limit ({Digits.countLimit} digits) for integer string conversion: " ++
        s!"value has {count} digits; use sys.set_int_max_str_digits() to increase the limit"

def splitSign : Text → Bool × Text
  | '-' :: rest => (true, rest)
  | '+' :: rest => (false, rest)
  | text => (false, text)

def plain (text : Text) : Text :=
  Text.trimBy Text.isPadding (Text.withPlainDigits text)

def baseMark? : Nat → Option Char
  | 2 => some 'b'
  | 8 => some 'o'
  | 16 => some 'x'
  | _ => none

def withoutMark (base : Nat) : Text → Text
  | '0' :: letter :: rest =>
      if some letter.toLower = baseMark? base then rest else '0' :: letter :: rest
  | text => text

def signed (negative : Bool) (size : Nat) : Int :=
  if negative then -(size : Int) else size

/-- The whole number of a base that a text stands for.  Only bases that are powers of two take
any number of digits. -/
def whole (base : Nat) (text : Text) : Except Error Int :=
  let (negative, body) := splitSign (plain text)
  let body := withoutMark base body
  let digits := body.takeWhile (Digits.isDigitOf base)
  if base = 10 ∧ Digits.countLimit < digits.length then
    .error (.tooLong digits.length)
  else if digits.isEmpty || digits.length < body.length then
    .error (.malformed base text)
  else
    .ok (signed negative (Digits.read base digits))

/-- Reads a power of ten that takes up a whole text; an empty one is zero. -/
def exponent? : Text → Option Int
  | [] => some 0
  | mark :: rest =>
      if mark == 'e' || mark == 'E' then
        let (negative, digits) := splitSign rest
        if digits.isEmpty || !digits.all Digits.isDecimal then none
        else some (signed negative (Digits.read 10 digits))
      else
        none

def magnitude? (negative : Bool) (text : Text) : Option Binary64 :=
  if ["inf", "infinity"].any (fun word => word.toList == Text.lowerLatin text) then
    some (.infinite negative)
  else if Text.lowerLatin text == "nan".toList then
    some .nan
  else
    let whole := text.takeWhile Digits.isDecimal
    let (fraction, rest) : Text × Text :=
      match text.dropWhile Digits.isDecimal with
      | '.' :: rest => (rest.takeWhile Digits.isDecimal, rest.dropWhile Digits.isDecimal)
      | rest => ([], rest)
    if whole.isEmpty && fraction.isEmpty then
      none
    else
      (exponent? rest).map (fun exponent =>
        Binary64.ofDecimal negative (Digits.read 10 (whole ++ fraction))
          (exponent - fraction.length))

def decimal? (text : Text) : Option Binary64 :=
  let (negative, body) := splitSign (plain text)
  magnitude? negative body

end Numeral

end InputDeck
