import InputDeck.Text.Basic

/-!
Whole numbers in text: reading digits of a base, writing decimals, and grouping thousands.
-/

namespace InputDeck

namespace Digits

def value? (c : Char) : Option Nat :=
  if '0' ≤ c ∧ c ≤ '9' then some (c.toNat - 48)
  else if 'a' ≤ c ∧ c ≤ 'z' then some (c.toNat - 87)
  else if 'A' ≤ c ∧ c ≤ 'Z' then some (c.toNat - 55)
  else none

def isDecimal (c : Char) : Bool :=
  '0' ≤ c && c ≤ '9'

def isDigitOf (base : Nat) (c : Char) : Bool :=
  match value? c with
  | some value => value < base
  | none => false

def read (base : Nat) (digits : Text) : Nat :=
  digits.foldl (fun total c => total * base + (value? c).getD 0) 0

def write (n : Nat) : Text :=
  Nat.toDigits 10 n

def writeInt : Int → Text
  | .ofNat n => write n
  | .negSucc n => '-' :: write (n + 1)

/-- The most decimal digits that a number may be read from or written with. -/
def countLimit : Nat := 4300

def isWritable (n : Nat) : Bool :=
  n < Nat.pow 10 countLimit

/-- Digits in groups of three, counted from the end of the reversed list. -/
def groupReversed : Text → Text
  | a :: b :: c :: d :: rest => a :: b :: c :: ',' :: groupReversed (d :: rest)
  | short => short

def writeGrouped (n : Int) : Text :=
  let sign := if n < 0 then ['-'] else []
  sign ++ (groupReversed (write n.natAbs).reverse).reverse

end Digits

end InputDeck
