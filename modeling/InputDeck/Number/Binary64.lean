import InputDeck.Number.Digits

/-!
Double-precision numbers in exact arithmetic.  A finite one is a significand times a power of
two; a decimal is rounded to the nearest one, and to the even significand from halfway.
-/

namespace InputDeck

inductive Binary64 where
  | finite (negative : Bool) (significand : Nat) (exponent : Int)
  | infinite (negative : Bool)
  | nan
deriving DecidableEq, Repr

namespace Binary64

def zero (negative : Bool) : Binary64 :=
  finite negative 0 (-1074)

def isZero : Binary64 → Bool
  | finite _ 0 _ => true
  | _ => false

/-- The quotient, rounded to the nearest integer and to the even one from halfway. -/
def roundQuotient (num den : Nat) : Nat :=
  let quotient := num / den
  let rest := 2 * (num % den)
  if den < rest ∨ (rest = den ∧ quotient % 2 = 1) then quotient + 1 else quotient

def scaled (num den : Nat) (exponent : Int) : Nat :=
  if 0 ≤ exponent then
    roundQuotient num (den * Nat.pow 2 exponent.toNat)
  else
    roundQuotient (num * Nat.pow 2 (-exponent).toNat) den

/-- The exponent at which `num / den` has a significand of 53 bits, or the least one. -/
def exponentFor (num den : Nat) : Int :=
  let guess : Int := (num.log2 : Int) - den.log2 - 52
  let below :=
    if 0 ≤ guess then num < den * Nat.pow 2 (guess.toNat + 52)
    else num * Nat.pow 2 (-guess).toNat < den * Nat.pow 2 52
  max (if below then guess - 1 else guess) (-1074)

def ofQuotient (negative : Bool) (num den : Nat) : Binary64 :=
  let exponent := exponentFor num den
  let significand := scaled num den exponent
  let (significand, exponent) :=
    if significand = Nat.pow 2 53 then (Nat.pow 2 52, exponent + 1) else (significand, exponent)
  if 971 < exponent then infinite negative else finite negative significand exponent

def ofDecimal (negative : Bool) (digits : Nat) (exponent : Int) : Binary64 :=
  if digits = 0 then
    zero negative
  else
    let size := (Digits.write digits).length + exponent
    if 310 < size then infinite negative
    else if size < -330 then zero negative
    else if 0 ≤ exponent then ofQuotient negative (digits * Nat.pow 10 exponent.toNat) 1
    else ofQuotient negative digits (Nat.pow 10 (-exponent).toNat)

def quotient (significand : Nat) (exponent : Int) : Nat × Nat :=
  if 0 ≤ exponent then (significand * Nat.pow 2 exponent.toNat, 1)
  else (significand, Nat.pow 2 (-exponent).toNat)

/-- The double nearest to a quotient with a sign; nothing is a positive zero. -/
def ofFraction (num : Int) (den : Nat) : Binary64 :=
  if num = 0 then zero false else ofQuotient (num < 0) num.natAbs den

def fraction (negative : Bool) (significand : Nat) (exponent : Int) : Int × Nat :=
  let (num, den) := quotient significand exponent
  (if negative then -(num : Int) else num, den)

def whole? : Binary64 → Option Int
  | .finite negative significand exponent =>
      let (num, den) := fraction negative significand exponent
      if num % den = 0 then some (num / den) else none
  | .infinite _ | .nan => none

def negate : Binary64 → Binary64
  | finite negative significand exponent => finite (!negative) significand exponent
  | infinite negative => infinite (!negative)
  | nan => nan

def add : Binary64 → Binary64 → Binary64
  | finite a m p, finite b n q =>
      if m = 0 ∧ n = 0 then
        zero (a && b)
      else
        let (num, den) := fraction a m p
        let (other, divisor) := fraction b n q
        ofFraction (num * divisor + other * den) (den * divisor)
  | infinite a, infinite b => if a = b then infinite a else nan
  | infinite a, finite _ _ _ => infinite a
  | finite _ _ _, infinite b => infinite b
  | nan, _ | _, nan => nan

def scale (factor : Nat) : Binary64 → Binary64
  | finite negative significand exponent =>
      if significand = 0 ∨ factor = 0 then
        zero negative
      else
        let (num, den) := quotient significand exponent
        ofQuotient negative (num * factor) den
  | infinite negative => if factor = 0 then nan else infinite negative
  | nan => nan

end Binary64

end InputDeck
