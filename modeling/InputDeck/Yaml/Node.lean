import InputDeck.Yaml.Resolve
import InputDeck.Yaml.Scan

/-!
The nodes of a YAML document.  They are numbered, because an alias stands for the very node that
last bore its name, which may be one that the alias is part of.
-/

namespace InputDeck

namespace Yaml

/-- What a node holds; the nodes inside it are given by their numbers. -/
inductive Content where
  | scalar (text : Text)
  | sequence (items : List Nat)
  | mapping (entries : List (Nat × Nat))
deriving DecidableEq, Repr

namespace Content

def consItem (item : Nat) : Content → Content
  | sequence items => sequence (item :: items)
  | other => other

def consEntry (entry : Nat × Nat) : Content → Content
  | mapping entries => mapping (entry :: entries)
  | other => other

def reversed : Content → Content
  | sequence items => sequence items.reverse
  | mapping entries => mapping entries.reverse
  | other => other

end Content

structure Node where
  tag : Tag
  content : Content
  /-- The entries that a mapping has taken over from others. -/
  merged : Option (List (Nat × Nat)) := none
deriving DecidableEq, Repr

abbrev Nodes := Array Node

namespace Nodes

def nodeAt (nodes : Nodes) (number : Nat) : Node :=
  nodes.getD number { tag := .null, content := .scalar [] }

def entries (nodes : Nodes) (number : Nat) : List (Nat × Nat) :=
  match (nodes.nodeAt number).content with
  | .mapping entries => entries
  | _ => []

def change (nodes : Nodes) (number : Nat) (f : Content → Content) : Nodes :=
  nodes.modify number (fun node => { node with content := f node.content })

/-- The text of a scalar.  A mapping has the text under its default key, if it has one. -/
def text? (nodes : Nodes) : Nat → Nat → Option Text
  | 0, _ => none
  | fuel + 1, number =>
      match (nodes.nodeAt number).content with
      | .scalar text => some text
      | .sequence _ => none
      | .mapping entries =>
          (entries.find? (fun (key, _) => (nodes.nodeAt key).tag == .default)).bind
            (fun (_, value) => nodes.text? fuel value)

end Nodes

structure Reader where
  scan : Scan
  nodes : Nodes := #[]
  /-- The collections that are being read, whose parts are kept last first. -/
  unfinished : List Nat := []
  anchors : List (Text × Nat) := []
  shorthands : List (Text × Text) := Tag.defaultShorthands

def Reader.readNodes (reader : Reader) : Nodes :=
  reader.unfinished.foldl (fun nodes number => nodes.change number Content.reversed) reader.nodes

/-- A step that reads part of a document.  What is known so far outlives a failure. -/
abbrev Reading := EStateM Error Reader

namespace Reading

def next : Reading Token := do
  match (← get).scan.peek with
  | .ok (token, scan) =>
      modify (fun reader => { reader with scan })
      return token
  | .error error => throw error

def drop : Reading Unit :=
  modify (fun reader => { reader with scan := reader.scan.take })

def take (token : Token) : Reading Bool := do
  if (← next) == token then
    drop
    return true
  else
    return false

def nextIs (tokens : List Token) : Reading Bool := do
  return tokens.contains (← next)

def add (anchor : Option Text) (tag : Tag) (content : Content) : Reading Nat := do
  let number := (← get).nodes.size
  modify (fun reader => { reader with
    nodes := reader.nodes.push { tag, content },
    anchors := (anchor.map (fun name => (name, number))).toList ++ reader.anchors })
  return number

def change (number : Nat) (f : Content → Content) : Reading Unit :=
  modify (fun reader => { reader with nodes := reader.nodes.change number f })

def addItem (number item : Nat) : Reading Unit :=
  change number (Content.consItem item)

def addEntry (number : Nat) (entry : Nat × Nat) : Reading Unit :=
  change number (Content.consEntry entry)

def collection (number : Nat) (parts : Reading Unit) : Reading Nat := do
  modify (fun reader => { reader with unfinished := number :: reader.unfinished })
  parts
  modify (fun reader => { reader with unfinished := reader.unfinished.drop 1 })
  change number Content.reversed
  return number

def addPlain (anchor : Option Text) (text : Text) : Reading Nat := do
  add anchor (resolve (← get).scan.version text) (.scalar text)

def addEmpty : Reading Nat :=
  addPlain none []

def follow (name : Text) : Reading Nat := do
  match (← get).anchors.lookup name with
  | some number => return number
  | none => throw .malformed

/-- The anchor and tag before a node.  A tag is given by its full name, and an exclamation mark
asks for the tag that the content has. -/
structure Properties where
  anchor : Option Text := none
  tag : Option Text := none

def anchor? : Reading (Option Text) := do
  match ← next with
  | .anchor name =>
      drop
      return some name
  | _ => return none

def tag? : Reading (Option (Option Text × Text)) := do
  match ← next with
  | .tag handle name =>
      drop
      return some (handle, name)
  | _ => return none

def fullName (handle : Option Text) (name : Text) : Reading Text := do
  let start ←
    match handle with
    | none => pure []
    | some handle =>
        match (← get).shorthands.lookup handle with
        | some start => pure start
        | none => throw .malformed
  match Tag.decode name with
  | .ok name => return start ++ name
  | .error error => throw error

def properties : Reading Properties := do
  let first ← anchor?
  let tag ← tag?
  let anchor ←
    match first, tag with
    | none, some _ => anchor?
    | anchor, _ => pure anchor
  match tag with
  | none => return { anchor }
  | some (handle, name) => return { anchor, tag := some (← fullName handle name) }

def Properties.tagOr (properties : Properties) (usual : Tag) : Tag :=
  match properties.tag with
  | none | some ['!'] => usual
  | some name => Tag.ofName name

def addScalar (properties : Properties) (text : Text) (plain : Bool) : Reading Nat :=
  match properties.tag with
  | some ['!'] => addPlain properties.anchor text
  | some name => add properties.anchor (Tag.ofName name) (.scalar text)
  | none =>
      if plain then addPlain properties.anchor text
      else add properties.anchor .text (.scalar text)

mutual

/-- Reads a node.  In a block, collections by indentation are allowed; a sequence may stand at
the indentation of the mapping around it. -/
def node : Nat → (block indentless : Bool) → Reading Nat
  | 0, _, _ => throw .malformed
  | fuel + 1, block, indentless => do
      match ← next with
      | .alias name =>
          drop
          follow name
      | _ => content fuel block indentless (← properties)

def content : Nat → (block indentless : Bool) → Properties → Reading Nat
  | 0, _, _, _ => throw .malformed
  | fuel + 1, block, indentless, properties => do
      let sequence := add properties.anchor (properties.tagOr .list) (.sequence [])
      let mapping := add properties.anchor (properties.tagOr .map) (.mapping [])
      match ← next with
      | .scalar text plain =>
          drop
          addScalar properties text plain
      | .flowSequenceStart =>
          drop
          let number ← sequence
          collection number (flowItems fuel true number)
      | .flowMappingStart =>
          drop
          let number ← mapping
          collection number (flowEntries fuel true number)
      | token =>
          if indentless && token == .entry then
            let number ← sequence
            collection number (indentlessItems fuel number)
          else if block && token == .sequenceStart then
            drop
            let number ← sequence
            collection number (items fuel number)
          else if block && token == .mappingStart then
            drop
            let number ← mapping
            collection number (entries fuel number)
          else if properties.anchor.isSome || properties.tag.isSome then
            addScalar properties [] true
          else
            throw .malformed

def items : Nat → Nat → Reading Unit
  | 0, _ => throw .malformed
  | fuel + 1, number => do
      if ← take .entry then
        addItem number
          (← if ← nextIs [.entry, .blockEnd] then addEmpty else node fuel true false)
        items fuel number
      else if !(← take .blockEnd) then
        throw .malformed

def indentlessItems : Nat → Nat → Reading Unit
  | 0, _ => throw .malformed
  | fuel + 1, number => do
      if ← take .entry then
        addItem number
          (← if ← nextIs [.entry, .key, .value, .blockEnd] then addEmpty
            else node fuel true false)
        indentlessItems fuel number

def blockValue : Nat → Reading Nat
  | 0 => throw .malformed
  | fuel + 1 => do
      if ← take .value then
        if ← nextIs [.key, .value, .blockEnd] then addEmpty else node fuel true true
      else
        addEmpty

/-- Reads the entries of a block mapping.  In the first version each starts with a key. -/
def entries : Nat → Nat → Reading Unit
  | 0, _ => throw .malformed
  | fuel + 1, number => do
      if ← take .key then
        let key ←
          if ← nextIs [.key, .value, .blockEnd] then addEmpty else node fuel true true
        addEntry number (key, ← blockValue fuel)
        entries fuel number
      else if (← get).scan.version == .second && (← next) == .value then
        let key ← addEmpty
        addEntry number (key, ← blockValue fuel)
        entries fuel number
      else if !(← take .blockEnd) then
        throw .malformed

def flowValue : Nat → Token → Reading Nat
  | 0, _ => throw .malformed
  | fuel + 1, close => do
      if ← take .value then
        if ← nextIs [.flowEntry, close] then addEmpty else node fuel false false
      else
        addEmpty

def flowPair : Nat → Token → Nat → Reading Unit
  | 0, _, _ => throw .malformed
  | fuel + 1, close, number => do
      let key ←
        if ← nextIs [.value, .flowEntry, close] then addEmpty else node fuel false false
      addEntry number (key, ← flowValue fuel close)

def flowItems : Nat → (first : Bool) → Nat → Reading Unit
  | 0, _, _ => throw .malformed
  | fuel + 1, first, number => do
      if ← take .flowSequenceEnd then
        return ()
      if !first then
        if !(← take .flowEntry) then throw .malformed
      if ← take .key then
        let item ← add none .map (.mapping [])
        addItem number (← collection item (flowPair fuel .flowSequenceEnd item))
        flowItems fuel false number
      else if ← take .flowSequenceEnd then
        return ()
      else
        addItem number (← node fuel false false)
        flowItems fuel false number

/-- Reads the entries of a flow mapping.  In the first version a value needs a key. -/
def flowEntries : Nat → (first : Bool) → Nat → Reading Unit
  | 0, _, _ => throw .malformed
  | fuel + 1, first, number => do
      if ← take .flowMappingEnd then
        return ()
      if !first then
        if !(← take .flowEntry) then throw .malformed
      if ← take .key then
        flowPair fuel .flowMappingEnd number
        flowEntries fuel false number
      else if (← get).scan.version == .second && (← next) == .value then
        let key ← addEmpty
        addEntry number (key, ← flowValue fuel .flowMappingEnd)
        flowEntries fuel false number
      else if ← take .flowMappingEnd then
        return ()
      else
        let key ← node fuel false false
        addEntry number (key, ← addEmpty)
        flowEntries fuel false number

end

/-- Reads directives: the minor number of the version, if it is given, and the shorthands.  There
may be one version, which has to be of the first generation, and each shorthand may be given
once. -/
def directives : Nat → Option Nat → List (Text × Text) →
    Reading (Option Nat × List (Text × Text))
  | 0, minor, shorthands => return (minor, shorthands)
  | fuel + 1, minor, shorthands => do
      match ← next with
      | .version major number =>
          drop
          if minor.isSome || major != 1 then throw .malformed
          directives fuel (some number) shorthands
      | .shorthand handle start =>
          drop
          if (shorthands.lookup handle).isSome then throw .malformed
          directives fuel minor ((handle, start) :: shorthands)
      | .directive =>
          drop
          directives fuel minor shorthands
      | _ => return (minor, shorthands)

/-- Goes over to the version and the shorthands that the directives before a document give.  A
document without a version is in the second one. -/
def obeyDirectives (fuel : Nat) : Reading Unit := do
  let (minor, shorthands) ← directives fuel none []
  match Version.ofMinor? (minor.getD 2) with
  | none => throw (.unknownVersion (minor.getD 2))
  | some version =>
      modify (fun reader => { reader with
        scan := { reader.scan with version },
        shorthands := shorthands ++ Tag.defaultShorthands })

def dropEnds : Nat → Reading Unit
  | 0 => return ()
  | fuel + 1 => do
      if ← take .documentEnd then dropEnds fuel else return ()

def explicitStart (fuel : Nat) : Reading Bool := do
  dropEnds fuel
  if (← next) == .streamEnd then
    return false
  obeyDirectives fuel
  if ← take .documentStart then return true else throw .malformed

def explicitContent (fuel : Nat) : Reading Nat := do
  if (← next).isOutside then addEmpty else node fuel true false

/-- Whether what comes next can only be the start of a document that has a mark there. -/
def startsExplicitly : Reading Bool := do
  let token ← next
  return token.isDirective || token == .documentStart || token == .streamEnd

/-- Makes sure that no other document follows.  Names hold until the document ends. -/
def lastDocument (fuel : Nat) : Reading Unit := do
  let marked ← take .documentEnd
  modify (fun reader => { reader with anchors := [] })
  if marked && (← get).scan.version == .second then
    if !(← startsExplicitly) then throw .malformed
  if ← explicitStart fuel then throw .malformed

def document (fuel : Nat) : Reading (Option Nat) := do
  if ← startsExplicitly then
    if ← explicitStart fuel then
      let root ← explicitContent fuel
      lastDocument fuel
      return some root
    else
      return none
  else
    let root ← node fuel true false
    lastDocument fuel
    return some root

end Reading

end Yaml

end InputDeck
