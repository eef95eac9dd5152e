import InputDeck.Position
import InputDeck.Text.Basic
import InputDeck.Text.Slice

/-!
A document as its rows.  A place outside it reads as empty text, save that a row counted from
the end has to exist.
-/

namespace InputDeck

structure Document where
  rows : List Text
  path : Text
deriving DecidableEq, Repr

inductive RangeError where
  | reversed (start stop : Position)
  | noRow (miss : Slice.Miss)
deriving DecidableEq, Repr

def RangeError.message : RangeError → String
  | reversed start stop => s!"range end {stop.render} is before start {start.render}"
  | noRow miss => miss.message

namespace Document

def unnamed : Text :=
  "<string>".toList

def ofText (text path : Text) : Document :=
  ⟨Text.splitOn '\n' text, path⟩

def anonymous (text : Text) : Document :=
  ofText text unnamed

def text (doc : Document) : Text :=
  Text.joinWith ['\n'] doc.rows

/-- The text of a row, empty outside the document. -/
def row (doc : Document) (index : Int) : Text :=
  if index < 0 then [] else doc.rows.getD index.toNat []

/-- The row at an index, which may count from the end. -/
def rowAt (doc : Document) (index : Int) : Except RangeError Text :=
  match Slice.element doc.rows index with
  | .ok text => .ok text
  | .error miss => .error (.noRow miss)

def range (doc : Document) (start stop : Position) : Except RangeError Text :=
  if stop < start then
    .error (.reversed start stop)
  else if (doc.rows.length : Int) ≤ start.row then
    .ok []
  else do
    let first ← doc.rowAt start.row
    if start.row = stop.row then
      return Slice.between first start.column stop.column
    let head := Slice.since first start.column
    let inner := Slice.between doc.rows (start.row + 1) stop.row
    if stop.row < doc.rows.length then
      let last ← doc.rowAt stop.row
      return Text.joinWith ['\n'] (head :: inner ++ [Slice.upTo last stop.column])
    else
      return Text.joinWith ['\n'] (head :: inner)

@[simp]
theorem text_ofText (text path : Text) : (ofText text path).text = text :=
  Text.joinWith_splitOn '\n' text

end Document

end InputDeck
