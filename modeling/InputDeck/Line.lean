import InputDeck.Text.Basic

/-!
The line dialect.  Every row of a document is read on its own: `[name]` opens a block, `[]`
closes it, `[./name]` and `[../]` do the same for a sub-block, `name = value` is a parameter,
and a number sign starts a comment.  Any other row is kept as it is.
-/

namespace InputDeck

/-- A piece of a row and the column where it starts. -/
structure Placed where
  text : Text
  column : Nat
deriving DecidableEq, Repr

def isQuote (c : Char) : Bool :=
  c == '\'' || c == '"'

namespace Placed

/-- The words of a value, cut at white space and quotation marks, with their columns. -/
def words (value : Placed) : List (Text × Nat) :=
  Text.runs (fun c => !(Text.isBlank c || isQuote c)) value.column value.text

end Placed

inductive Content where
  | openTop (name : Text)
  | closeTop
  | openSub (name : Text)
  | closeSub
  | parameter (name : Text) (value : Option Placed)
  | comment
  | blank
  | other
deriving DecidableEq, Repr

namespace Content

def isTag : Content → Bool
  | openTop _ | closeTop | openSub _ | closeSub => true
  | _ => false

def isBlank : Content → Bool
  | blank => true
  | _ => false

def label : Content → String
  | openTop _ => "open_top"
  | closeTop => "close_top"
  | openSub _ => "open_sub"
  | closeSub => "close_sub"
  | parameter _ _ => "param"
  | comment => "comment"
  | blank => "blank"
  | other => "other"

def name? : Content → Option Text
  | openTop name | openSub name | parameter name _ => some name
  | _ => none

def value? : Content → Option Placed
  | parameter _ value => value
  | _ => none

/-- How far right of the row's first character the name starts. -/
def nameOffset : Content → Nat
  | openTop _ => 1
  | openSub _ => 3
  | _ => 0

end Content

namespace Line

def uncommented (row : Text) : Text :=
  row.takeWhile (· != '#')

def isNameChar (c : Char) : Bool :=
  !(Text.isBlank c || c == '=' || c == '[' || c == ']' || c == '#')

def startsBlockName (c : Char) : Bool :=
  c != '.' && c != '/' && c != ']'

def continuesBlockName (c : Char) : Bool :=
  c != '/' && c != ']'

def blockName? : Text → Option Text
  | [] => none
  | c :: rest =>
      if startsBlockName c then
        match rest.dropWhile continuesBlockName with
        | ']' :: _ => some (c :: rest.takeWhile continuesBlockName)
        | _ => none
      else
        none

def readTag (rest : Text) : Content :=
  match blockName? rest with
  | some name => .openTop name
  | none =>
      match rest with
      | ']' :: _ => .closeTop
      | '.' :: '/' :: inner =>
          match blockName? inner with
          | some name => .openSub name
          | none => .other
      | '.' :: '.' :: '/' :: ']' :: _ => .closeSub
      | _ => .other

def readParameter (column : Nat) (text : Text) : Content :=
  let name := text.takeWhile isNameChar
  match Text.trimStart (text.dropWhile isNameChar) with
  | '=' :: after =>
      let value := Text.trimStart after
      if name.isEmpty || value.contains '\n' then .other
      else if value.isEmpty then .parameter name none
      else .parameter name (some ⟨value, column + (text.length - value.length)⟩)
  | _ => .other

def readContent (column : Nat) : Text → Content
  | '[' :: rest => readTag rest
  | text => readParameter column text

end Line

structure Line where
  content : Content
  indent : Nat
  stop : Nat
deriving DecidableEq, Repr

namespace Line

def read (row : Text) : Line :=
  let body := Text.trimEnd (uncommented row)
  let text := Text.trimStart body
  if text.isEmpty then
    if (Text.trim row).isEmpty then
      ⟨.blank, 0, 0⟩
    else
      ⟨.comment, row.length - (Text.trimStart row).length, (Text.trimEnd row).length⟩
  else
    let indent := body.length - text.length
    ⟨readContent indent text, indent, body.length⟩

def nameColumn (line : Line) : Nat :=
  line.indent + line.content.nameOffset

def valueWords (line : Line) : List (Text × Nat) :=
  match line.content.value? with
  | some value => value.words
  | none => []

end Line

namespace Text

/-- A value without its quotation marks.  A pair of equal marks is removed once; stray marks are
removed from both ends. -/
def unquote (value : Text) : Text :=
  let text := trim value
  match text.head?, text.getLast? with
  | some first, some last =>
      if 2 ≤ text.length && first == last && isQuote first then
        text.tail.dropLast
      else
        trimBy isQuote text
  | _, _ => []

def unquotedWords (value : Text) : List Text :=
  words (unquote value)

end Text

end InputDeck
