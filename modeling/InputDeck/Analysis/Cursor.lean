import InputDeck.Analysis.Reference
import InputDeck.Context

/-!
What stands at a cursor: a tag, a parameter name, a type or a value, with what the schema and
the document say about it.
-/

namespace InputDeck

namespace Analysis

open Schema

inductive TokenKind where
  | block
  | subBlock
  | type
  | parameter
  | value
deriving DecidableEq, Repr

def TokenKind.label : TokenKind → String
  | block => "block"
  | subBlock => "subblock"
  | type => "type"
  | parameter => "parameter"
  | value => "value"

structure CursorMatch where
  kind : TokenKind
  path : List Text
  start : Position
  stop : Position
  description : Text := []
  node : Option Node := none
  param : Option Param := none
  definition : Option Definition := none
deriving Repr

/-- The part of a row between two columns. -/
structure Piece where
  row : Int
  start : Nat
  stop : Nat

namespace Piece

/-- Whether a column lies in the part, its end included. -/
def holds (piece : Piece) (column : Int) : Bool :=
  piece.start ≤ column && column ≤ piece.stop

def make (piece : Piece) (kind : TokenKind) (path : List Text) : CursorMatch :=
  { kind, path, start := ⟨piece.row, piece.start⟩, stop := ⟨piece.row, piece.stop⟩ }

end Piece

def tagMatch (doc : Document) (kind : TokenKind) (piece : Piece) (path : List Text) :
    Inquiry CursorMatch := do
  let found ← Inquiry.find? path
  let definition ←
    if kind == .subBlock && path.length == 2 then do
      let reference ← definition? doc (Text.joinWith ['/'] path)
      pure (reference.map (·.definition))
    else
      pure none
  return { piece.make kind path with
    description := (found.map (·.node.description)).getD [],
    node := found.map (·.node),
    definition }

def typeMatch (piece : Piece) (path : List Text) (param : Option Param) (word : Text) :
    Inquiry CursorMatch := do
  let typed ←
    match ← Inquiry.find? path with
    | some base => Inquiry.find? ((typedPath? path (some word) base.starLast).getD [])
    | none => pure none
  return { piece.make .type path with
    description := (typed.map (·.node.description)).getD [],
    node := typed.map (·.node),
    param }

def valueMatch (doc : Document) (piece : Piece) (path : List Text) (name : Text)
    (param : Option Param) (word : Text) : Inquiry CursorMatch := do
  let namespaces := namespacesFor name param
  let definition ←
    if namespaces.isEmpty then
      pure none
    else do
      let found ← references doc
      pure ((namespaces.findSome? (fun top =>
        found.find? (fun reference =>
          reference.definition.key == top ++ '/' :: word))).map (·.definition))
  return { piece.make .value path with
    description := (definition.map (·.description)).getD [],
    param,
    definition }

def parameterMatch (doc : Document) (position : Position) (line : Line) (name : Text)
    (context : Context) : Inquiry (Option CursorMatch) := do
  let param ← Inquiry.parameter? context.path context.type name
  let piece : Piece := ⟨position.row, line.nameColumn, line.nameColumn + name.length⟩
  if piece.holds position.column then
    return some { piece.make .parameter context.path with
      description := (param.map (·.description)).getD [], param }
  else
    let words := line.valueWords.map (fun (word, column) =>
      (word, (⟨position.row, column, column + word.length⟩ : Piece)))
    match words.find? (fun (_, piece) => piece.holds position.column) with
    | none => return none
    | some (word, piece) =>
        if name == "type".toList then
          return some (← typeMatch piece context.path param word)
        else
          return some (← valueMatch doc piece context.path name param word)

def cursorMatch (doc : Document) (position : Position) :
    Except RangeError (Inquiry (Option CursorMatch)) := do
  let row := doc.row position.row
  let line := Line.read row
  let context ← doc.context ⟨position.row, row.length⟩
  let tag : Piece := ⟨position.row, line.indent, line.stop⟩
  match line.content with
  | .openTop _ =>
      if tag.holds position.column then
        return some <$> tagMatch doc .block tag context.path
      else
        return pure none
  | .openSub _ =>
      if tag.holds position.column then
        return some <$> tagMatch doc .subBlock tag context.path
      else
        return pure none
  | .parameter name _ => return parameterMatch doc position line name context
  | _ => return pure none

end Analysis

end InputDeck
