import InputDeck.Number.Binary64

/-!
The shortest decimal that reads back as a given double, and its layout: positional for
moderate exponents, with an exponent of at least two digits otherwise.
-/

namespace InputDeck

namespace Shortest

def reaches (num den : Nat) (power : Int) : Bool :=
  if 0 ≤ power then den * Nat.pow 10 power.toNat ≤ num
  else den ≤ num * Nat.pow 10 (-power).toNat

def pointAfter (num den : Nat) : Int :=
  let guess : Int := ((num.log2 : Int) - den.log2) * 30103 / 100000
  let candidates := [guess - 1, guess, guess + 1, guess + 2]
  (candidates.find? (fun power => !reaches num den power)).getD (guess + 3)

/-- `num / den` times ten to the `power`, rounded down, and what is left over the new
denominator. -/
def onGrid (num den : Nat) (power : Int) : Nat × Nat × Nat :=
  let (num, den) :=
    if 0 ≤ power then (num * Nat.pow 10 power.toNat, den) else (num, den * Nat.pow 10 (-power).toNat)
  (num / den, num % den, den)

/-- The decimal of a number of digits that reads back as the double, if there is one; of two the
nearer, and the even one from halfway. -/
def withDigits? (significand : Nat) (exponent : Int) (point : Int) (count : Nat) :
    Option (Nat × Int) :=
  let (num, den) := Binary64.quotient significand exponent
  let power := count - point
  let (low, rest, size) := onGrid num den power
  let readsBack := fun digits =>
    Binary64.ofDecimal false digits (-power) == .finite false significand exponent
  let preferHigh := size < 2 * rest ∨ (size = 2 * rest ∧ low % 2 = 1)
  if readsBack low then
    if readsBack (low + 1) ∧ preferHigh then some (low + 1, -power) else some (low, -power)
  else if readsBack (low + 1) then
    some (low + 1, -power)
  else
    none

def decimal (significand : Nat) (exponent : Int) : Nat × Int :=
  let (num, den) := Binary64.quotient significand exponent
  let point := pointAfter num den
  ((List.range 17).findSome? (fun n => withDigits? significand exponent point (n + 1))).getD
    (significand, 0)

def withoutEndZeros (digits : Text) : Text :=
  match Text.dropEndWhile (· == '0') digits with
  | [] => ['0']
  | kept => kept

/-- Writes digits whose point stands after the first `point` of them. -/
def positional (digits : Text) (point : Int) : Text :=
  if point ≤ 0 then
    "0.".toList ++ List.replicate (-point).toNat '0' ++ digits
  else if digits.length ≤ point.toNat then
    digits ++ List.replicate (point.toNat - digits.length) '0' ++ ".0".toList
  else
    digits.take point.toNat ++ '.' :: digits.drop point.toNat

def scientific (digits : Text) (exponent : Int) : Text :=
  let power := Digits.write exponent.natAbs
  let power := if power.length < 2 then '0' :: power else power
  let mantissa :=
    match digits with
    | first :: second :: rest => first :: '.' :: second :: rest
    | short => short
  mantissa ++ ['e', if exponent < 0 then '-' else '+'] ++ power

def write : Binary64 → Text
  | .nan => "nan".toList
  | .infinite negative => if negative then "-inf".toList else "inf".toList
  | .finite negative significand exponent =>
      let sign := if negative then ['-'] else []
      if significand = 0 then
        sign ++ "0.0".toList
      else
        let (number, power) := decimal significand exponent
        let all := Digits.write number
        let point := all.length + power
        let digits := withoutEndZeros all
        sign ++
          if -4 < point ∧ point ≤ 16 then positional digits point
          else scientific digits (point - 1)

end Shortest

end InputDeck
