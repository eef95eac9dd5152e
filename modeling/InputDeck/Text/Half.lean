/-!
Halves of surrogate pairs.  They are codes but no characters; a half that stands alone is kept as
a character of the last plane that has no meaning of its own.
-/

namespace InputDeck

namespace Text

def halfBase : Nat := 0x10E000

def isHalf (code : Nat) : Bool :=
  0xD800 ≤ code && code < 0xE000

/-- The character with a code, or the one that half of a surrogate pair is kept as. -/
def charOfCode (code : Nat) : Char :=
  if isHalf code then Char.ofNat (code - 0xD800 + halfBase) else Char.ofNat code

def halfCode? (c : Char) : Option Nat :=
  let code := c.toNat - halfBase + 0xD800
  if halfBase ≤ c.toNat && isHalf code then some code else none

theorem halfCode?_charOfCode {code : Nat} (half : isHalf code = true) :
    halfCode? (charOfCode code) = some code := by
  have bounds : 0xD800 ≤ code ∧ code < 0xE000 := by simpa [isHalf] using half
  have valid : (code - 0xD800 + halfBase).isValidChar := by
    simp only [Nat.isValidChar, halfBase]
    omega
  have kept : (charOfCode code).toNat = code - 0xD800 + halfBase := by
    rw [charOfCode, if_pos half, Char.ofNat, dif_pos valid]
    rfl
  have back : code - 0xD800 + 0xD800 = code := by omega
  simp [halfCode?, kept, back, half]

end Text

end InputDeck
