import InputDeck.Yaml.Tag
import InputDeck.Yaml.Version

/-!
What plain scalars stand for.  Words for null and truth values, numbers and dates are
recognised by their form, which one line break may follow; anything else is text.
-/

namespace InputDeck

namespace Yaml

namespace Form

def isGrouped (c : Char) : Bool :=
  Digits.isDecimal c || c == '_'

def isWord (words : List String) (text : Text) : Bool :=
  words.any (fun word => word.toList == text)

def isNull (text : Text) : Bool :=
  isWord ["", "~", "null", "Null", "NULL"] text

def isBool (version : Version) (text : Text) : Bool :=
  isWord ["true", "True", "TRUE", "false", "False", "FALSE"] text ||
    (version == .first &&
      isWord ["y", "Y", "yes", "Yes", "YES", "n", "N", "no", "No", "NO", "on", "On", "ON", "off",
        "Off", "OFF"] text)

def isExponent (signRequired : Bool) : Text → Bool
  | mark :: rest =>
      let signed := rest.head? == some '-' || rest.head? == some '+'
      let digits := if signed then rest.drop 1 else rest
      (mark == 'e' || mark == 'E') && (signed || !signRequired) && !digits.isEmpty &&
        digits.all Digits.isDecimal
  | [] => false

/-- Whether a text is parts of sixty, each after a colon, and then what `final` asks for. -/
def isSixties (final : Text → Bool) : Text → Bool
  | ':' :: a :: b :: rest =>
      if Digits.isDecimal a && Digits.isDecimal b then
        a ≤ '5' && (final rest || isSixties final rest)
      else
        Digits.isDecimal a && (final (b :: rest) || isSixties final (b :: rest))
  | [':', a] => Digits.isDecimal a && final []
  | _ => false

def isFraction : Text → Bool
  | '.' :: rest => rest.all isGrouped
  | _ => false

def isUnsignedFloat (version : Version) (signed : Bool) (text : Text) : Bool :=
  match text with
  | '.' :: rest =>
      let digits := rest.takeWhile isGrouped
      let after := rest.dropWhile isGrouped
      isWord ["inf", "Inf", "INF"] rest || (!signed && isWord ["nan", "NaN", "NAN"] rest) ||
        (!(signed && version == .first) && !digits.isEmpty &&
          (after.isEmpty || isExponent true after))
  | first :: _ =>
      let after := text.dropWhile isGrouped
      let fractional :=
        match after with
        | '.' :: rest =>
            let after := rest.dropWhile isGrouped
            after.isEmpty || isExponent false after
        | _ => false
      Digits.isDecimal first &&
        (fractional || isExponent false after ||
          (version == .first && isSixties isFraction after))
  | [] => false

def splitSign : Text → Bool × Text
  | '-' :: rest | '+' :: rest => (true, rest)
  | text => (false, text)

def isFloat (version : Version) (text : Text) : Bool :=
  let (signed, body) := splitSign text
  isUnsignedFloat version signed body

def areDigits (base : Nat) (text : Text) : Bool :=
  !text.isEmpty && text.all (fun c => Digits.isDigitOf base c || c == '_')

def isUnsignedInt (version : Version) (text : Text) : Bool :=
  let marked :=
    match text with
    | '0' :: 'b' :: digits => areDigits 2 digits
    | '0' :: 'x' :: digits => areDigits 16 digits
    | '0' :: 'o' :: digits => version == .second && areDigits 8 digits
    | _ => false
  let unmarked :=
    match version with
    | .second => areDigits 10 text
    | .first =>
        let positive := text.head?.any (fun c => '1' ≤ c && c ≤ '9')
        areDigits 8 text ||
          (positive && (text.all isGrouped || isSixties List.isEmpty (text.dropWhile isGrouped)))
  marked || unmarked

/-- Whether a text is a whole number.  Its first character is no underscore. -/
def isInt (version : Version) (text : Text) : Bool :=
  text.head? != some '_' && isUnsignedInt version (splitSign text).2

end Form

end Yaml

end InputDeck
