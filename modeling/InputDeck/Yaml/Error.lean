import InputDeck.Number.Numeral
import InputDeck.Value.Display

/-!
Why a YAML text has no value.  Most texts that cannot be read break the rules of the format; a
few follow them and still name something that does not exist.
-/

namespace InputDeck

namespace Yaml

inductive MomentPart where
  | year
  | month
  | day
  | hour
  | minute
  | second
deriving DecidableEq, Repr

def MomentPart.message : MomentPart → String
  | year => "year 0 is out of range"
  | month => "month must be in 1..12"
  | day => "day is out of range for month"
  | hour => "hour must be in 0..23"
  | minute => "minute must be in 0..59"
  | second => "second must be in 0..59"

inductive Error where
  | malformed
  | unknownVersion (minor : Nat)
  | noTruthValue (word : Text)
  | emptyNumber
  | noWholeNumber (error : Numeral.Error)
  | noDecimal (text : Text)
  | manyExponents
  | tooLargeForDecimal
  | unwritable
  | noCharacter
  | codeTooLarge
  | noMoment (part : MomentPart)
  | zoneTooFar (minutes : Int)
  | afterLastYear
  | unusableKey (sort : String)
  | repeatedKey
deriving DecidableEq, Repr

namespace Error

inductive Family where
  | form
  | value
  | word
  | place
  | operation
  | range
  | condition
deriving DecidableEq, Repr

def family : Error → Family
  | malformed => .form
  | unknownVersion _ | repeatedKey => .condition
  | noTruthValue _ => .word
  | emptyNumber => .place
  | unusableKey _ => .operation
  | tooLargeForDecimal | codeTooLarge | afterLastYear => .range
  | noWholeNumber _ | noDecimal _ | manyExponents | unwritable | noCharacter | noMoment _
  | zoneTooFar _ => .value

def message : Error → String
  | malformed => "malformed"
  | unknownVersion minor => s!"version minor part can only be 2 or 1, got (1, {minor})"
  | noTruthValue word => (Text.quoted word).string
  | emptyNumber => "string index out of range"
  | noWholeNumber error => error.message
  | noDecimal text => "could not convert string to float: " ++ (Text.quoted text).string
  | manyExponents => "too many values to unpack (expected 2)"
  | tooLargeForDecimal => "int too large to convert to float"
  | unwritable =>
      s!"Exceeds the limit ({Digits.countLimit} digits) for integer string conversion; " ++
        "use sys.set_int_max_str_digits() to increase the limit"
  | noCharacter => "chr() arg not in range(0x110000)"
  | codeTooLarge => "Python int too large to convert to C int"
  | noMoment part => part.message
  | zoneTooFar minutes =>
      "offset must be a timedelta strictly between -timedelta(hours=24) and " ++
        "timedelta(hours=24), not " ++ (Moment.displaySpan minutes).string ++ "."
  | afterLastYear => "date value out of range"
  | unusableKey sort => s!"unhashable type: '{sort}'"
  | repeatedKey => ""

end Error

end Yaml

end InputDeck
