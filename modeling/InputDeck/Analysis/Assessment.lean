import InputDeck.Edit
import InputDeck.Layout
import InputDeck.Outline.Read
import InputDeck.Schema.Catalog

/-!
The full check of a document: its structure, its blocks and parameters against the schema, the
sub-blocks that its switches name, and its layout.
-/

namespace InputDeck

namespace Analysis

open Outline Schema

structure Assessment where
  outline : List TopBlock
  diagnostics : List Diagnostic
deriving DecidableEq, Repr

def isAlwaysAllowed (name : Text) : Bool :=
  name == Switch.active.parameter.toList || name == Switch.inactive.parameter.toList

def firstOfName : List Param → List Param
  | [] => []
  | param :: rest => param :: (firstOfName rest).filter (fun other => other.name != param.name)

def unknownType (block : Block) (types : List Node) : List Diagnostic :=
  match block.parameter? "type".toList, block.type? with
  | some item, some type =>
      if type.isEmpty || types.isEmpty || types.any (fun node => node.lastSegment == type) then
        []
      else
        let column : Int :=
          match item.value with
          | some value => value.column
          | none => item.start.column
        [{ problem := .unknownType type, start := ⟨item.start.row, column⟩, stop := item.stop }]
  | _, _ => []

def unknownParameter (known : List Param) (item : Parameter) : Option Diagnostic :=
  if known.any (fun param => param.name == item.name) || isAlwaysAllowed item.name then
    none
  else
    some {
      problem := .unknownParameter item.name,
      start := item.start,
      stop := ⟨item.start.row, item.start.column + item.name.length⟩ }

/-- The row that sets a parameter to its default, below its block's opening tag. -/
def defaultRow (width : Int) (level : Level) (param : Param) : Text :=
  '\n' :: Layout.indentation width level.depth ++ param.name ++ " = ".toList ++
    param.default.getD []

def missingParameters (width : Int) (level : Level) (block : Block) (known : List Param) :
    List Diagnostic :=
  match known.filter (fun param => param.required && (block.parameter? param.name).isNone) with
  | [] => []
  | missing => [{
      problem := .missingParameters (missing.map (·.name)),
      start := block.start,
      stop := block.headerEnd level,
      correction := some (.insertAfter (missing.flatMap (defaultRow width level))) }]

def describe (known : List Param) (item : Parameter) : Parameter :=
  match known.find? (fun param => param.name == item.name) with
  | some param => { item with description := param.description }
  | none => item

def checkParameters (width : Int) (level : Level) (path : List Text) (block : Block) :
    Inquiry (Block × List Diagnostic) := do
  let type := block.type?
  let types ←
    match type with
    | none | some [] => pure []
    | some _ => Inquiry.types path
  let wrongType := unknownType block types
  let known := firstOfName (← Inquiry.parameters path type)
  let described := { block with parameters := block.parameters.map (describe known) }
  if wrongType.isEmpty then
    return (described,
      block.parameters.filterMap (unknownParameter known) ++
        missingParameters width level block known)
  else
    return (described, wrongType)

def checkBlock (width : Int) (level : Level) (path : List Text) (block : Block) :
    Inquiry (Block × List Diagnostic) := do
  match ← Inquiry.find? path with
  | none =>
      return (block, [{
        problem := .unknownBlock path, start := block.start, stop := block.headerEnd level }])
  | some found =>
      checkParameters width level path { block with description := found.node.description }

def checkChildren (width : Int) (parent : Text) :
    List Block → Inquiry (List Block × List Diagnostic)
  | [] => return ([], [])
  | child :: rest => do
      let (child, found) ← checkBlock width .sub [parent, child.name] child
      let (rest, others) ← checkChildren width parent rest
      return (child :: rest, found ++ others)

/-- Checks a block and those below it.  A block without a name was supplied for a sub-block that
has none, which has been reported. -/
def checkTop (width : Int) (top : TopBlock) : Inquiry (TopBlock × List Diagnostic) := do
  if top.name.isEmpty then
    return (top, [])
  else
    let (block, found) ← checkBlock width .top [top.name] top.toBlock
    let (children, others) ← checkChildren width top.name top.children
    return ({ block with children, inactive := top.inactive }, found ++ others)

def checkTops (width : Int) : List TopBlock → Inquiry (List TopBlock × List Diagnostic)
  | [] => return ([], [])
  | top :: rest => do
      let (top, found) ← checkTop width top
      let (rest, others) ← checkTops width rest
      return (top :: rest, found ++ others)

def switchValue? (block : Block) (switch : Switch) : Option (Parameter × Placed) := do
  let item ← block.parameter? switch.parameter.toList
  let value ← item.value
  return (item, value)

def unknownChildren (block : Block) (children : List Text) (switch : Switch) :
    List Diagnostic :=
  match switchValue? block switch with
  | none => []
  | some (item, value) =>
      ((Text.unquotedWords value.text).filter (fun name => !children.contains name)).map
        (fun name =>
          let column : Int :=
            match value.words.lookup name with
            | some column => column
            | none => item.start.column
          { problem := .unknownChild switch name,
            start := ⟨item.start.row, column⟩,
            stop := ⟨item.start.row, column + name.length⟩ })

def turnedOff (block : Block) (children : List Text) (switch : Switch) : List Text :=
  match switchValue? block switch with
  | none => []
  | some (_, value) =>
      let names := Text.unquotedWords value.text
      match switch with
      | .active => children.filter (fun child => !names.contains child)
      | .inactive => children.filter (fun child => names.contains child)

def checkSwitches (top : TopBlock) : List Diagnostic :=
  let both := fun (block : Block) children =>
    unknownChildren block children .active ++ unknownChildren block children .inactive
  both top.toBlock (top.children.map (·.name)) ++
    top.children.flatMap (fun child => both child [])

def markInactive (top : TopBlock) : TopBlock :=
  let children := top.children.map (·.name)
  { top with
    inactive := Schema.distinct
      (turnedOff top.toBlock children .active ++ turnedOff top.toBlock children .inactive) }

/-- Checks a document.  Layout is checked for a tab width that is given and not zero. -/
def assess (doc : Document) (width : Option Int) : Inquiry Assessment := do
  let width := width.filter (· != 0)
  let (outline, found) ←
    if ← Inquiry.isLoaded then checkTops (width.getD 4) doc.outline
    else pure (doc.outline, [])
  let layout :=
    match width with
    | some width => doc.layoutDiagnostics width
    | none => []
  return {
    outline := outline.map markInactive,
    diagnostics := Diagnostic.sortByStart
      (doc.structuralDiagnostics ++ found ++ outline.flatMap checkSwitches ++ layout) }

def fix (doc : Document) (width : Option Int) : Inquiry (Except Slice.Miss Text) := do
  let assessment ← assess doc width
  return doc.text.correct assessment.diagnostics

end Analysis

end InputDeck
