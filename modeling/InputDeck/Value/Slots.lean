import InputDeck.Value.Basic

/-!
The order in which the numbers of a set are listed.  Each lies in one of a row of slots, which its
residue chooses, or in another one if that is taken; the slots are listed from first to last.
-/

namespace InputDeck

namespace Slots

def modulus : Nat := 2305843009213693951

/-- The residue of a whole number over a power of two.  Halving it turns its 61 bits by one. -/
def residueOf (num : Int) (halvings : Nat) : Int :=
  let size : Int := num.natAbs % modulus * Nat.pow 2 (61 - halvings % 61) % modulus
  let residue := if num < 0 then -size else size
  if residue = -1 then -2 else residue

def residue? : Value → Option Int
  | .bool flag => some (if flag then 1 else 0)
  | .int number => some (residueOf number 0)
  | .float (.finite negative significand exponent) =>
      let (num, den) := Binary64.fraction negative significand exponent
      some (residueOf num (Nat.log2 den))
  | .float (.infinite negative) => some (if negative then -314159 else 314159)
  | _ => none

/-- The number of slots for a number of members: eight, or a power of two over twice as many. -/
def slotCount (members : Nat) : Nat :=
  if members < 5 then 8 else Nat.pow 2 (Nat.log2 (2 * members) + 1)

/-- The first free slot for a residue, starting with the given one.  A few slots after it are
tried, and then one that depends on the rest of the residue. -/
def freeSlot (taken : Array Bool) : Nat → (slot rest : Nat) → Nat
  | 0, slot, _ => slot
  | fuel + 1, slot, rest =>
      let reach := if slot + 9 < taken.size then 10 else 1
      match (List.range reach).find? (fun step => !taken.getD (slot + step) true) with
      | some step => slot + step
      | none => freeSlot taken fuel ((slot * 5 + 1 + rest / 32) % taken.size) (rest / 32)

def slots (taken : Array Bool) : List Int → List Nat
  | [] => []
  | residue :: rest =>
      let word := (residue % 18446744073709551616).toNat
      let slot := freeSlot taken (taken.size + 16) (word % taken.size) word
      slot :: slots (taken.setIfInBounds slot true) rest

/-- The members of a set in the order in which they are listed, if they are numbers; otherwise in
the order in which they were added. -/
def listed (members : List Value) : List Value :=
  match members.mapM residue? with
  | none => members
  | some residues =>
      let places := slots (Array.replicate (slotCount members.length) false) residues
      ((places.zip members).mergeSort (fun a b => a.1 ≤ b.1)).map Prod.snd

end Slots

end InputDeck
