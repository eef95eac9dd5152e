import InputDeck.Text.Basic

/-!
A place in a YAML text: what is still to be read, and the line and column it starts at.  The
end of the text reads as the character zero, which no YAML text may hold.
-/

namespace InputDeck

namespace Yaml

structure Cursor where
  rest : Text
  index : Nat := 0
  line : Nat := 0
  column : Nat := 0
deriving Repr

def isBreak (c : Char) : Bool :=
  c == '\n' || c == '\r' || c == '\x85' || c == '\u2028' || c == '\u2029'

def endsLine (c : Char) : Bool :=
  c == '\x00' || isBreak c

def endsPart (c : Char) : Bool :=
  c == ' ' || endsLine c

def isGap (c : Char) : Bool :=
  c == ' ' || c == '\t'

def endsWord (c : Char) : Bool :=
  isGap c || endsLine c

def orderMark : Char :=
  '\uFEFF'

namespace Cursor

def peek (cursor : Cursor) (n : Nat) : Char :=
  cursor.rest.getD n '\x00'

def next (cursor : Cursor) : Char :=
  cursor.peek 0

def atEnd (cursor : Cursor) : Bool :=
  cursor.rest.isEmpty

/-- Moves over one character.  Only a line feed and a carriage return start a new line; the other
breaks count as characters of theirs. -/
def step (cursor : Cursor) : Cursor :=
  match cursor.rest with
  | [] => cursor
  | c :: rest =>
      if c == '\n' || (c == '\r' && rest.head? != some '\n') then
        { rest, index := cursor.index + 1, line := cursor.line + 1, column := 0 }
      else
        { rest, index := cursor.index + 1, line := cursor.line,
          column := if c == orderMark then cursor.column else cursor.column + 1 }

def skip : Nat → Cursor → Cursor
  | 0, cursor => cursor
  | n + 1, cursor => skip n cursor.step

def span (p : Char → Bool) (cursor : Cursor) : Text × Cursor :=
  let text := cursor.rest.takeWhile p
  (text, cursor.skip text.length)

def skipWhile (p : Char → Bool) (cursor : Cursor) : Cursor :=
  (cursor.span p).2

def skipSpaces (cursor : Cursor) : Cursor :=
  cursor.skipWhile (· == ' ')

def skipGap (cursor : Cursor) : Cursor :=
  cursor.skipWhile isGap

def skipLine (cursor : Cursor) : Cursor :=
  cursor.skipWhile (fun c => !endsLine c)

def skipComment (cursor : Cursor) : Cursor :=
  if cursor.next == '#' then cursor.skipLine else cursor

def skipIndent (column : Int) (cursor : Cursor) : Cursor :=
  let spaces := (cursor.rest.takeWhile (· == ' ')).length
  cursor.skip (min spaces (column - cursor.column).toNat)

/-- Moves over a line break, and gives the text it stands for; none, if there is no break. -/
def lineBreak? (cursor : Cursor) : Option (Char × Cursor) :=
  match cursor.rest with
  | '\r' :: '\n' :: _ => some ('\n', cursor.skip 2)
  | c :: _ =>
      if c == '\u2028' || c == '\u2029' then some (c, cursor.step)
      else if isBreak c then some ('\n', cursor.step)
      else none
  | [] => none

def skipBreak (cursor : Cursor) : Cursor :=
  (cursor.lineBreak?.map Prod.snd).getD cursor

/-- Whether three equal marks stand here as a word. -/
def startsMark (mark : Char) (cursor : Cursor) : Bool :=
  cursor.peek 0 == mark && cursor.peek 1 == mark && cursor.peek 2 == mark &&
    endsWord (cursor.peek 3)

def atDocumentMark (cursor : Cursor) : Bool :=
  cursor.startsMark '-' || cursor.startsMark '.'

end Cursor

end Yaml

end InputDeck
