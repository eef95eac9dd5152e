import InputDeck.Text.Basic

/-!
Bytes written in sixty-four letters, four for every three bytes.  Other characters are passed
over.
-/

namespace InputDeck

namespace Base64

def letter? (c : Char) : Option Nat :=
  if c.isUpper then some (c.toNat - 65)
  else if c.isLower then some (c.toNat - 71)
  else if c.isDigit then some (c.toNat + 4)
  else if c == '+' then some 62
  else if c == '/' then some 63
  else none

/-- Reads on after `place` letters of a group of four, whose bits left over are `carry`, and
`pads` filling marks.  The bytes before are kept last first.  A group that is filled up ends the
data. -/
def readGroup (place carry pads : Nat) (bytes : List UInt8) : Text → Option (List UInt8)
  | [] => if place = 0 then some bytes.reverse else none
  | c :: rest =>
      if c == '=' then
        if place < 2 then readGroup place carry pads bytes rest
        else if 3 ≤ place + pads then some bytes.reverse
        else readGroup place carry (pads + 1) bytes rest
      else
        match letter? c with
        | none => readGroup place carry pads bytes rest
        | some bits =>
            match place with
            | 0 => readGroup 1 bits 0 bytes rest
            | 1 => readGroup 2 (bits % 16) 0 ((carry * 4 + bits / 16).toUInt8 :: bytes) rest
            | 2 => readGroup 3 (bits % 4) 0 ((carry * 16 + bits / 4).toUInt8 :: bytes) rest
            | _ => readGroup 0 0 0 ((carry * 64 + bits).toUInt8 :: bytes) rest

/-- The bytes that a text stands for, unless its last group is cut short. -/
def decode? (text : Text) : Option (List UInt8) :=
  readGroup 0 0 0 [] text

end Base64

end InputDeck
