import InputDeck.Text.Blank

/-!
Text as a list of code points, with the cutting and trimming that the line dialect needs.
Rows, columns and offsets all count code points.
-/

namespace InputDeck

abbrev Text := List Char

namespace Text

def string (text : Text) : String :=
  String.ofList text

def ofBytes? (bytes : List UInt8) : Option Text :=
  (String.fromUTF8? ⟨bytes.toArray⟩).map String.toList

def toBytes (text : Text) : List UInt8 :=
  (string text).toUTF8.toList

def dropEndWhile (p : Char → Bool) (text : Text) : Text :=
  (text.reverse.dropWhile p).reverse

def trimBy (p : Char → Bool) (text : Text) : Text :=
  dropEndWhile p (text.dropWhile p)

def trimStart (text : Text) : Text :=
  text.dropWhile isBlank

def trimEnd (text : Text) : Text :=
  dropEndWhile isBlank text

def trim (text : Text) : Text :=
  trimBy isBlank text

/-- Cuts the text at every `separator`; there is always at least one piece. -/
def splitOn (separator : Char) : Text → List Text
  | [] => [[]]
  | c :: rest =>
      if c = separator then
        [] :: splitOn separator rest
      else
        match splitOn separator rest with
        | [] => [[c]]
        | piece :: pieces => (c :: piece) :: pieces

def joinWith (separator : Text) : List Text → Text
  | [] => []
  | [piece] => piece
  | piece :: next :: pieces => piece ++ separator ++ joinWith separator (next :: pieces)

/-- The maximal runs of characters of a class, each with its column, the text starting at
`column`. -/
def runs (p : Char → Bool) : Nat → Text → List (Text × Nat)
  | _, [] => []
  | column, c :: rest =>
      let later := runs p (column + 1) rest
      if p c then
        match later with
        | (word, start) :: more =>
            if start = column + 1 then (c :: word, column) :: more
            else ([c], column) :: later
        | [] => [([c], column)]
      else
        later

def words (text : Text) : List Text :=
  (runs (fun c => !isBlank c) 0 text).map Prod.fst

def dropStart? : (start text : Text) → Option Text
  | [], text => some text
  | _ :: _, [] => none
  | s :: start, c :: text => if s = c then dropStart? start text else none

def find? (piece : Text) : Text → Option Nat
  | [] => if piece.isEmpty then some 0 else none
  | c :: rest =>
      if piece.isPrefixOf (c :: rest) then some 0 else (find? piece rest).map (· + 1)

def findLast? (piece : Text) : Text → Option Nat
  | [] => if piece.isEmpty then some 0 else none
  | c :: rest =>
      match findLast? piece rest with
      | some offset => some (offset + 1)
      | none => if piece.isPrefixOf (c :: rest) then some 0 else none

/-- Whether a text comes no later than another in the order of code points. -/
def isAtMost : Text → Text → Bool
  | [], _ => true
  | _ :: _, [] => false
  | c :: text, d :: other => if c = d then isAtMost text other else decide (c.toNat < d.toNat)

/-- Lower case of the Latin letters without marks; other characters stay. -/
def lowerLatin (text : Text) : Text :=
  text.map Char.toLower

theorem splitOn_ne_nil (separator : Char) (text : Text) : splitOn separator text ≠ [] := by
  induction text with
  | nil => simp [splitOn]
  | cons c rest ih =>
      by_cases same : c = separator
      · simp [splitOn, same]
      · cases pieces : splitOn separator rest with
        | nil => simp [splitOn, same, pieces]
        | cons piece more => simp [splitOn, same, pieces]

theorem joinWith_splitOn (separator : Char) (text : Text) :
    joinWith [separator] (splitOn separator text) = text := by
  induction text with
  | nil => rfl
  | cons c rest ih =>
      by_cases same : c = separator
      · subst same
        cases pieces : splitOn c rest with
        | nil => exact absurd pieces (splitOn_ne_nil c rest)
        | cons piece more =>
            rw [pieces] at ih
            simp [splitOn, pieces, joinWith, ih]
      · cases pieces : splitOn separator rest with
        | nil => exact absurd pieces (splitOn_ne_nil separator rest)
        | cons piece more =>
            rw [pieces] at ih
            simp only [splitOn, same, if_false, pieces]
            cases more with
            | nil => simpa [joinWith] using ih
            | cons next others => simpa [joinWith] using ih

end Text

end InputDeck
