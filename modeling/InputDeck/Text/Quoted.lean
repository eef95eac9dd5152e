import InputDeck.Text.Basic
import InputDeck.Text.Half
import InputDeck.Text.Printable

/-!
Quoted text: single quotation marks, or double ones around a text that holds single ones only.
The mark, the backslash and what is not printable are escaped.
-/

namespace InputDeck

namespace Text

def hexadecimal (count code : Nat) : Text :=
  let digits := Nat.toDigits 16 code
  List.replicate (count - digits.length) '0' ++ digits

def escaped (mark c : Char) : Text :=
  let code := (halfCode? c).getD c.toNat
  if c == mark || c == '\\' then ['\\', c]
  else if c == '\n' then ['\\', 'n']
  else if c == '\r' then ['\\', 'r']
  else if c == '\t' then ['\\', 't']
  else if isPrintable c then [c]
  else if code < 256 then '\\' :: 'x' :: hexadecimal 2 code
  else if code < 65536 then '\\' :: 'u' :: hexadecimal 4 code
  else '\\' :: 'U' :: hexadecimal 8 code

def markFor (text : Text) : Char :=
  if text.contains '\'' && !text.contains '"' then '"' else '\''

def quoted (text : Text) : Text :=
  let mark := markFor text
  mark :: text.flatMap (escaped mark) ++ [mark]

/-- Bytes between quotation marks; only those of printable characters are shown as such. -/
def quotedBytes (bytes : List UInt8) : Text :=
  let text := bytes.map (fun byte => Char.ofNat byte.toNat)
  let mark := markFor text
  let shown := fun c =>
    if c.toNat < 127 then escaped mark c else '\\' :: 'x' :: hexadecimal 2 c.toNat
  'b' :: mark :: text.flatMap shown ++ [mark]

end Text

end InputDeck
