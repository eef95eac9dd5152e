import InputDeck.Analysis.ValueType
import InputDeck.Outline.Read
import InputDeck.Schema.Catalog

/-!
Definitions in a document and the places that refer to them.  Sub-blocks of some blocks define
their name; materials define the properties that they name.  The first definition of a name
counts, and one that is stated outright counts before one that is used in an expression.
-/

namespace InputDeck

namespace Analysis

open Outline Schema

/-- A name that the sub-blocks of a top-level block define. -/
structure Definition where
  scope : Text
  name : Text
  position : Position
  description : Text := []
  type : Option Text := none
  file : Option Text := none
deriving DecidableEq, Repr

def Definition.key (definition : Definition) : Text :=
  definition.scope ++ '/' :: definition.name

structure Reference where
  definition : Definition
  refs : List Position
deriving DecidableEq, Repr

/-- Blocks whose sub-blocks define their own name. -/
def namedBlocks : List Text :=
  ["Variables".toList, "AuxVariables".toList, "Functions".toList, "Postprocessors".toList,
    "UserObjects".toList, "VectorPostprocessors".toList]

def materials : Text :=
  "Materials".toList

def allNamespaces : List Text :=
  namedBlocks ++ [materials]

def propertyParameters : List Text :=
  ["f_name".toList, "function_name".toList, "prop_names".toList]

def expressionParameter : Text :=
  "material_property_names".toList

def isIdentifier : Text → Bool
  | [] => false
  | c :: rest => (c.isAlpha || c == '_') && rest.all (fun c => c.isAlphanum || c == '_')

/-- What is right of the first `:=`. -/
def afterAssignment (entry : Text) : Text :=
  match Text.find? ":=".toList entry with
  | some offset => entry.drop (offset + 2)
  | none => entry

/-- The property in a derivative `D[name,…]`. -/
def derivative? (entry : Text) : Option Text := do
  let rest ← Text.dropStart? "D[".toList entry
  let name := (Text.trimStart rest).takeWhile
    (fun c => !(c == ',' || c == ']' || Text.isBlank c))
  if name.isEmpty then none else some name

def call? (entry : Text) : Option Text :=
  let name := entry.takeWhile (fun c => !(c == '(' || Text.isBlank c))
  match entry.drop name.length with
  | '(' :: _ => if name.isEmpty then none else some name
  | _ => none

def usedProperty? (entry : Text) : Option Text :=
  let entry := afterAssignment entry
  let name := (derivative? entry).getD ((call? entry).getD entry)
  if isIdentifier name then some name else none

def usedProperties (expression : Text) : List Text :=
  distinct ((Text.unquotedWords expression).filterMap usedProperty?)

structure Declaration where
  scope : Text
  name : Text
  block : Block
  /-- Whether it is stated outright. -/
  explicit : Bool := true
deriving DecidableEq, Repr

/-- The names that a material states for its properties: its own, if it states none. -/
def statedProperties (block : Block) : List Text :=
  let stated := propertyParameters.flatMap (fun parameter =>
    match (block.parameter? parameter).bind Parameter.valueText? with
    | some value => Text.unquotedWords value
    | none => [])
  if stated.isEmpty then [block.name] else stated

def declarations (top : Text) (block : Block) : List Declaration :=
  if namedBlocks.contains top then
    [{ scope := top, name := block.name, block }]
  else if top == materials then
    let used :=
      match (block.parameter? expressionParameter).bind Parameter.valueText? with
      | some value => usedProperties value
      | none => []
    (statedProperties block).map (fun name => { scope := top, name, block }) ++
      used.map (fun name => { scope := top, name, block, explicit := false })
  else
    []

/-- All declarations of an outline, those stated outright first. -/
def allDeclarations (outline : List TopBlock) : List Declaration :=
  let all := outline.flatMap (fun top => top.children.flatMap (declarations top.name))
  all.filter (·.explicit) ++ all.filter (fun declaration => !declaration.explicit)

def firstDeclarations : List Declaration → List Declaration
  | [] => []
  | declaration :: rest =>
      declaration :: (firstDeclarations rest).filter (fun other =>
        !(other.scope == declaration.scope && other.name == declaration.name))

/-- The schema block of a sub-block: that of its type, if the schema has one. -/
def schemaNode? (path : List Text) (type : Option Text) : Inquiry (Option Node) := do
  match ← Inquiry.find? path with
  | none => return none
  | some base =>
      match type with
      | none | some [] => return some base.node
      | some _ =>
          let typed ← Inquiry.find? ((typedPath? path type base.starLast).getD [])
          return some ((typed.map (·.node)).getD base.node)

def define (declaration : Declaration) : Inquiry Definition := do
  let block := declaration.block
  let node ← schemaNode? [declaration.scope, block.name] block.type?
  return {
    scope := declaration.scope,
    name := declaration.name,
    position := block.start,
    description := (node.map (·.description)).getD [],
    type := block.type?,
    file := node.bind (·.file) }

def defineAll : List Declaration → Inquiry (List Definition)
  | [] => return []
  | declaration :: rest => do
      let definition ← define declaration
      return definition :: (← defineAll rest)

def isPlain (name : Text) : Bool :=
  ["type", "active", "inactive"].any (fun word => word.toList == name)

/-- The blocks that values of a parameter refer to: those of its type, or all of them if the
schema gives no type. -/
def namespacesFor (name : Text) (param : Option Param) : List Text :=
  if isPlain name then
    []
  else
    match param with
    | none => allNamespaces
    | some param =>
        if param.type.isEmpty then
          allNamespaces
        else
          match ValueType.namespaces.lookup param.type with
          | some found => found
          | none =>
              ((ValueType.element? param.type).bind (ValueType.namespaces.lookup ·)).getD []

structure Use where
  word : Text
  namespaces : List Text
  position : Position
deriving DecidableEq, Repr

def isDefining (path : List Text) (name : Text) : Bool :=
  match path with
  | [top, _] =>
      top == materials && (propertyParameters.contains name || name == expressionParameter)
  | _ => false

def blockUses (path : List Text) (block : Block) : Inquiry (List Use) := do
  let known ← Inquiry.parameters path block.type?
  return block.parameters.flatMap (fun item =>
    match item.value with
    | none => []
    | some value =>
        if isDefining path item.name then
          []
        else
          let namespaces := namespacesFor item.name
            (known.find? (fun param => param.name == item.name))
          if namespaces.isEmpty then
            []
          else
            value.words.map (fun (word, column) =>
              ⟨word, namespaces, ⟨item.start.row, column⟩⟩))

def childUses (parent : Text) : List Block → Inquiry (List Use)
  | [] => return []
  | child :: rest => do
      let uses ← blockUses [parent, child.name] child
      return uses ++ (← childUses parent rest)

def allUses : List TopBlock → Inquiry (List Use)
  | [] => return []
  | top :: rest => do
      let uses ← blockUses [top.name] top.toBlock
      let below ← childUses top.name top.children
      return uses ++ below ++ (← allUses rest)

def refsOf (uses : List Use) (definition : Definition) : List Position :=
  let found := uses.filter (fun use =>
    use.word == definition.name && use.namespaces.contains definition.scope)
  (found.map (·.position)).mergeSort (fun a b => decide (a ≤ b))

def references (doc : Document) : Inquiry (List Reference) := do
  let outline := doc.outline
  let definitions ← defineAll (firstDeclarations (allDeclarations outline))
  let uses ← allUses outline
  return definitions.map (fun definition => ⟨definition, refsOf uses definition⟩)

def definition? (doc : Document) (key : Text) : Inquiry (Option Reference) := do
  return (← references doc).find? (fun reference => reference.definition.key == key)

end Analysis

end InputDeck
