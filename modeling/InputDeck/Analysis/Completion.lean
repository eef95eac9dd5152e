import InputDeck.Analysis.ValueType
import InputDeck.Context
import InputDeck.Outline.Read
import InputDeck.Schema.Catalog
import InputDeck.Text.Alphanumeric

/-!
Completions at a cursor.  The row up to the cursor decides what is offered: block names inside
an open bracket, types after `type =`, parameter names at the start of a row, values after an
equals sign.
-/

namespace InputDeck

namespace Analysis

open Outline Schema

/-- What a completion puts into the document: plain text, or text with a place to fill in. -/
inductive Insertion where
  | text (text : Text)
  | snippet (text : Text)
deriving DecidableEq, Repr

inductive CompletionKind where
  | block
  | closing
  | parameter (required : Bool)
  | type
  | value
deriving DecidableEq, Repr

def CompletionKind.label : CompletionKind → String
  | block => "block"
  | closing => "closing"
  | parameter _ => "parameter"
  | type => "type"
  | value => "value"

structure Completion where
  kind : CompletionKind
  display : Text
  insertion : Insertion
  description : Text := []
  typed : Text := []
deriving DecidableEq, Repr

namespace Completion

def value (text : Text) : Completion :=
  { kind := .value, display := text, insertion := .text text }

end Completion

def typedWord (row : Text) : Text :=
  let row := if row.getLast? == some '\n' then row.dropLast else row
  (row.reverse.takeWhile (fun c =>
    Text.isWord c || c == '-' || c == '.' || c == '/' || c == '[')).reverse

def isTypedChar (c : Char) : Bool :=
  !(Text.isBlank c || c == '#' || c == '=' || c == ']')

/-- A value being typed: whether it is quoted, and whether it goes on after a first word. -/
structure ValueForm where
  quoted : Bool
  spaced : Bool

inductive Typing where
  | tag
  | typeValue
  | parameterName
  | parameterValue (name : Text) (form : ValueForm)
  | nothing

def valueForm? (value : Text) : Option ValueForm :=
  let isInside := fun (c : Char) => !(c == '\'' || c == '#' || c == '=' || c == ']')
  match value with
  | '\'' :: rest =>
      if rest.all isInside then
        some ⟨true,
          !((Text.trimStart rest).dropWhile (fun c => !Text.isBlank c)).isEmpty⟩
      else if rest.all isTypedChar then
        some ⟨true, false⟩
      else
        none
  | _ => if value.all isTypedChar then some ⟨false, false⟩ else none

def typedValue? (row : Text) : Option (Text × ValueForm) := do
  let text := Text.trimStart row
  let name := text.takeWhile isTypedChar
  if name.isEmpty then none
  let value ← Text.dropStart? ['='] (Text.trimStart (text.dropWhile isTypedChar))
  let form ← valueForm? (Text.trimStart value)
  return (name, form)

def isTag (row : Text) : Bool :=
  match Text.trimStart row with
  | '[' :: rest => rest.all (fun c => !(c == ']' || c == '#' || Text.isBlank c))
  | _ => false

def isTypeValue (row : Text) : Bool :=
  let value := do
    let rest ← Text.dropStart? "type".toList (Text.trimStart row)
    Text.dropStart? ['='] (Text.trimStart rest)
  match value with
  | some value => (Text.trimStart value).all isTypedChar
  | none => false

def Typing.of (row : Text) : Typing :=
  if isTag row then .tag
  else if isTypeValue row then .typeValue
  else if (Text.trimStart row).all isTypedChar then .parameterName
  else
    match typedValue? row with
    | some (name, form) => .parameterValue name form
    | none => .nothing

/-- Offers the blocks below a path.  The bracket after the cursor, if any, is kept. -/
def completeTag (closed : Bool) (path : List Text) : Inquiry (List Completion) := do
  let close := if closed then [] else [']']
  let opening := if path.isEmpty then ['['] else "[./".toList
  let closing : List Completion :=
    if path.isEmpty then [] else [{
      kind := .closing, display := "..".toList,
      insertion := .text ("[../".toList ++ close) }]
  let offers ← Inquiry.subBlockPaths path
  let names := distinct ((offers.filterMap (fun offer =>
    (Text.splitOn '/' offer)[path.length]?)).filter (fun name => !name.isEmpty))
  return closing ++ names.map (fun name => {
    kind := .block, display := name,
    insertion :=
      if name == wildcard then .snippet (opening ++ "$\x7b1:name\x7d".toList ++ close)
      else .text (opening ++ name ++ close) })

def defaultText (param : Param) : Text :=
  let default := param.default.getD []
  let default := if default.contains ' ' then '\'' :: default ++ ['\''] else default
  if param.type == "bool".toList then
    if default == ['0'] then "false".toList
    else if default == ['1'] then "true".toList
    else default
  else
    default

def completeName (path : List Text) (type : Option Text) : Inquiry (List Completion) := do
  let params ← Inquiry.parameters path type
  let names := distinct (params.map (·.name))
  let firsts := names.filterMap (fun name => params.find? (fun param => param.name == name))
  return firsts.map (fun param => {
    kind := if param.name == "type".toList then .type else .parameter param.required,
    display := param.name,
    insertion := .snippet
      (param.name ++ " = $\x7b1:".toList ++ defaultText param ++ ['\x7d']),
    description := param.description })

/-- The values of the describing parameters of a sub-block; the last one of a name counts. -/
def propertyValue? (child : Block) (name : Text) : Option Text :=
  ((child.parameters.filter (fun item => item.name == name)).filterMap
    Parameter.valueText?).getLast?.map Text.unquote

/-- Offers a sub-block as a value.  One that should have a type is offered only if it has. -/
def childCompletion? (source : ValueType.Source) (child : Block) : Option Completion :=
  let values := source.properties.filterMap (propertyValue? child)
  if source.properties.contains "type".toList then
    (propertyValue? child "type".toList).map (fun type => {
      kind := .block, display := child.name, insertion := .text child.name,
      description := child.name ++ " (".toList ++ type ++ [')'] })
  else
    some {
      kind := .block, display := child.name, insertion := .text child.name,
      description := Text.joinWith [' '] values }

def completeChildren (doc : Document) (source : ValueType.Source) : List Completion :=
  source.blocks.flatMap (fun name =>
    (doc.outline.filter (fun top => top.name == name)).flatMap (fun top =>
      top.children.filterMap (childCompletion? source)))

/-- Offers the values of a parameter.  `siblings` are the files beside the document. -/
def completeValue (doc : Document) (siblings : List Text) (param : Param) (form : ValueForm) :
    List Completion :=
  let single := !form.spaced
  let several := form.quoted || !form.spaced
  let element := ValueType.element? param.type
  let isType := fun (name : Text) =>
    (param.type == name && single) || (element == some name && several)
  let isEnum :=
    (param.type == "MooseEnum".toList && single) ||
      (param.type == "MultiMooseEnum".toList && several) ||
      (element == some "MooseEnum".toList && several)
  if isType "bool".toList then
    [.value "true".toList, .value "false".toList]
  else if isEnum then
    param.optionWords.map .value
  else
    match ValueType.sources.find? (fun (name, _) => isType name) with
    | some (_, source) => completeChildren doc source
    | none =>
        if isType "OutputName".toList then ValueType.outputs.map .value
        else if isType "FileName".toList || isType "MeshFileName".toList then
          siblings.map .value
        else []

def completeType (doc : Document) (siblings : List Text) (row : Text) (context : Context) :
    Inquiry (List Completion) := do
  let types ← Inquiry.types context.path
  if types.isEmpty then
    match ← Inquiry.parameter? context.path context.type "type".toList with
    | none => return []
    | some param =>
        let quoted := ((typedValue? row).map (fun (_, form) => form.quoted)).getD false
        return completeValue doc siblings param ⟨quoted, false⟩
  else
    return types.map (fun node => {
      kind := .type, display := node.lastSegment, insertion := .text node.lastSegment,
      description := node.description })

def completeTyping (doc : Document) (siblings : List Text) (row : Text) (closed : Bool)
    (context : Context) : Inquiry (List Completion) := do
  match Typing.of row with
  | .tag => completeTag closed context.path
  | .typeValue => completeType doc siblings row context
  | .parameterName => completeName context.path context.type
  | .parameterValue name form =>
      match ← Inquiry.parameter? context.path context.type name with
      | some param => return completeValue doc siblings param form
      | none => return []
  | .nothing => return []

def completions (doc : Document) (siblings : List Text) (position : Position) :
    Except RangeError (Inquiry (List Completion)) := do
  let row ← doc.range ⟨position.row, 0⟩ position
  let context ← doc.context position
  let following ← doc.range position ⟨position.row, position.column + 1⟩
  return do
    let found ← completeTyping doc siblings row (following.head? == some ']') context
    return found.map (fun completion => { completion with typed := typedWord row })

end Analysis

end InputDeck
