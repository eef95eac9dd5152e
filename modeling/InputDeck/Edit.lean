import InputDeck.Diagnostic
import InputDeck.Document

/-!
Applying corrections.  All positions are places in the text as it was; the last edit is applied
first, so that those before it still find their place.
-/

namespace InputDeck

structure Edit where
  start : Position
  stop : Position
  correction : Correction
deriving DecidableEq, Repr

def Diagnostic.edit? (diagnostic : Diagnostic) : Option Edit :=
  diagnostic.correction.map (fun correction => ⟨diagnostic.start, diagnostic.stop, correction⟩)

namespace Edit

/-- The offsets at which the rows start, and the offset after the last one, the first row
starting at `offset`. -/
def rowOffsets (offset : Nat) : List Text → List Nat
  | [] => [offset]
  | row :: rows => offset :: rowOffsets (offset + row.length + 1) rows

/-- The offset of a position; its row may count from the end of the table. -/
def offset (offsets : List Nat) (position : Position) : Except Slice.Miss Int := do
  let start ← Slice.element offsets position.row
  return start + position.column

def splice (text : Text) (start stop : Int) : Correction → Text
  | .replace new => Slice.upTo text start ++ new ++ Slice.since text stop
  | .insertBefore new => Slice.upTo text start ++ new ++ Slice.since text start
  | .insertAfter new => Slice.upTo text stop ++ new ++ Slice.since text stop

def applyOne (offsets : List Nat) (text : Text) (edit : Edit) : Except Slice.Miss Text := do
  let start ← offset offsets edit.start
  let stop ← offset offsets edit.stop
  return splice text start stop edit.correction

/-- Later starts first; edits that start together keep their order. -/
def lastFirst (edits : List Edit) : List Edit :=
  edits.mergeSort (fun a b => decide (b.start ≤ a.start))

/-- Applies all edits to a text.  There is no result if a row lies outside it. -/
def applyAll (text : Text) (edits : List Edit) : Except Slice.Miss Text :=
  (lastFirst edits).foldlM (applyOne (rowOffsets 0 (Text.splitOn '\n' text))) text

end Edit

def Text.correct (text : Text) (diagnostics : List Diagnostic) : Except Slice.Miss Text :=
  Edit.applyAll text (diagnostics.filterMap Diagnostic.edit?)

end InputDeck
