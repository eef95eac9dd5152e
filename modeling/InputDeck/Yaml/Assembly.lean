import InputDeck.Yaml.Graph
import InputDeck.Yaml.Node

/-!
From the nodes of a document to its values.  A collection is made empty and filled later, so that
it can be found inside itself; a key is filled at once.  A mapping may take entries over from
others with a merge key; its own come first in rank.  Otherwise no key may occur twice.

What is left unfinished by a failure is kept, and is finished together with the next document.
-/

namespace InputDeck

namespace Yaml

structure Task where
  node : Nat
  place : Nat
deriving DecidableEq, Repr

structure Assembly where
  version : Version := .second
  nodes : Nodes := #[]
  /-- The nodes that bear a name in a document that could not be read. -/
  anchors : List (Text × Nat) := []
  store : Store := #[]
  made : Array (Option Draft) := #[]
  /-- The nodes whose values are being made. -/
  opened : List Nat := []
  later : List Task := []
  deep : Bool := false
deriving Repr

/-- A step that makes values.  What is made so far outlives a failure. -/
abbrev Assembling := EStateM Error Assembly

namespace Assembly

def madeAt (assembly : Assembly) (number : Nat) : Option Draft :=
  assembly.made.getD number none

def record (assembly : Assembly) (number : Nat) (draft : Draft) : Assembly :=
  { assembly with made := assembly.made.setIfInBounds number (some draft) }

def withNodes (assembly : Assembly) (nodes : Nodes) : Assembly :=
  let missing := nodes.size - assembly.made.size
  { assembly with nodes, made := assembly.made ++ Array.replicate missing none }

def cleared (assembly : Assembly) : Assembly :=
  { version := assembly.version }

end Assembly

namespace Assembling

def nodeAt (number : Nat) : Assembling Node := do
  return (← get).nodes.nodeAt number

def tagOf (number : Nat) : Assembling Tag := do
  return (← nodeAt number).tag

def change (number : Nat) (f : Node → Node) : Assembling Unit :=
  modify (fun assembly => { assembly with nodes := assembly.nodes.modify number f })

def store (collection : Collection) : Assembling Nat := do
  let place := (← get).store.size
  modify (fun assembly => { assembly with store := assembly.store.push collection })
  return place

def putAt (place : Nat) (collection : Collection) : Assembling Unit :=
  modify (fun assembly => { assembly with store := assembly.store.setIfInBounds place collection })

def lift : Except Error α → Assembling α
  | .ok a => pure a
  | .error error => throw error

def textOf (number : Nat) : Assembling Text := do
  let nodes := (← get).nodes
  match nodes.text? (nodes.size + 1) number with
  | some text => return text
  | none => throw .malformed

def itemsOf (number : Nat) : Assembling (List Nat) := do
  match (← nodeAt number).content with
  | .sequence items => return items
  | _ => throw .malformed

def pairOf (number : Nat) : Assembling (Nat × Nat) := do
  match (← nodeAt number).content with
  | .mapping [entry] => return entry
  | _ => throw .malformed

def scalar (number : Nat) (tag : Tag) : Assembling Draft := do
  let version := (← get).version
  match tag with
  | .null => return (fun _ => .scalar .null) (← textOf number)
  | .bool => return .scalar (.bool (← lift (truthValue (← textOf number))))
  | .int => return .scalar (.int (← lift (wholeNumber version (← textOf number))))
  | .float =>
      match ← lift (decimal? version (← textOf number)) with
      | none => return .nan none
      | some .nan => return .nan (some number)
      | some decimal => return .scalar (.float decimal)
  | .text => return .scalar (.text (← textOf number))
  | .bytes => return .scalar (.bytes (← lift (bytes (← textOf number))))
  | .moment =>
      match (← nodeAt number).content with
      | .scalar text => return .scalar (.moment (← lift (moment text)))
      | _ => throw .malformed
  | _ => throw .malformed

def emptyFor? : Tag → Option Collection
  | .list | .pairs => some (.list [])
  | .map => some (.map [])
  | .set => some (.set [])
  | .ordered => some (.ordered [])
  | _ => none

mutual

/-- Takes the merge keys out of a mapping, from an entry on, and returns what they bring, after
what those before have brought.  Only one may bring anything. -/
def takeMerges : Nat → (number index : Nat) → List (Nat × Nat) → Assembling (List (Nat × Nat))
  | 0, _, _, _ => throw .malformed
  | fuel + 1, number, index, merge => do
      let entries := (← get).nodes.entries number
      match entries[index]? with
      | none => return merge
      | some (key, value) =>
          match ← tagOf key with
          | .merge =>
              if !merge.isEmpty then throw .malformed
              change number (fun node => { node with content := .mapping (entries.eraseIdx index) })
              let brought ← mergeSource fuel value
              takeMerges fuel number index brought
          | .default =>
              change key (fun node => { node with tag := .text })
              takeMerges fuel number (index + 1) merge
          | _ => takeMerges fuel number (index + 1) merge

/-- The entries that a merge key takes from a mapping or a list of mappings, the first one of
which comes last. -/
def mergeSource : Nat → Nat → Assembling (List (Nat × Nat))
  | 0, _ => throw .malformed
  | fuel + 1, number => do
      match (← nodeAt number).content with
      | .mapping _ =>
          flatten fuel number
          return (← get).nodes.entries number
      | .sequence items =>
          let parts ← items.mapM (fun item => do
            match (← nodeAt item).content with
            | .mapping _ =>
                flatten fuel item
                return (← get).nodes.entries item
            | _ => throw .malformed)
          return parts.reverse.flatten
      | .scalar _ => throw .malformed

def flatten : Nat → Nat → Assembling Unit
  | 0, _ => throw .malformed
  | fuel + 1, number => do
      let nodes := (← get).nodes
      let isSpecial := fun ((key, _) : Nat × Nat) =>
        [Tag.merge, Tag.default].contains (nodes.nodeAt key).tag
      if (nodes.entries number).any isSpecial then
        let merge ← takeMerges fuel number 0 []
        if !merge.isEmpty then
          change number (fun node => { node with
            merged := some merge,
            content :=
              match node.content with
              | .mapping entries => .mapping (merge ++ entries)
              | other => other })

end

/-- A value as a key.  A list is turned into a tuple; no other collection can be a key. -/
def asKey (draft : Draft) : Assembling Draft := do
  match draft with
  | .stored place =>
      match (← get).store.collectionAt place with
      | .list items => return .tuple items
      | _ => throw .malformed
  | other => return other

def checkKey (key : Draft) : Assembling Unit := do
  match Draft.collectionSort? (← get).store key with
  | some sort => throw (.unusableKey sort)
  | none => return ()

/-- Adds an entry.  If its key has to be a new one, entries are kept last first. -/
def addEntry (unique : Bool) (entries : List (Draft × Draft)) (key value : Draft) :
    Assembling (List (Draft × Draft)) := do
  checkKey key
  if unique then
    match Draft.entry? key entries with
    | some old =>
        if (← get).store.areWritable [key, value, old] then throw .malformed
        else throw .unwritable
    | none => return (key, value) :: entries
  else
    return Draft.setEntry key value entries

mutual

/-- The value of a node.  A node that is met inside itself before its value is there is null. -/
def make : Nat → (deep : Bool) → Nat → Assembling Draft
  | 0, _, _ => throw .malformed
  | fuel + 1, deep, number => do
      match (← get).madeAt number with
      | some draft => return draft
      | none =>
          let around := (← get).opened
          let wasDeep := (← get).deep
          if deep then modify ({ · with deep := true })
          if around.contains number then
            return .scalar .null
          modify ({ · with opened := number :: around })
          let draft ← build fuel number
          modify (·.record number draft)
          modify ({ · with opened := around })
          if deep then modify ({ · with deep := wasDeep })
          return draft

def build : Nat → Nat → Assembling Draft
  | 0, _ => throw .malformed
  | fuel + 1, number => do
      let tag ← tagOf number
      match emptyFor? tag with
      | none => scalar number tag
      | some collection =>
          let task : Task := { node := number, place := ← store collection }
          if (← get).deep then
            fill fuel task
          else
            modify (fun assembly => { assembly with later := task :: assembly.later })
          return .stored task.place

def fill : Nat → Task → Assembling Unit
  | 0, _ => throw .malformed
  | fuel + 1, { node, place } => do
      match ← tagOf node with
      | .list => putAt place (.list (← (← itemsOf node).mapM (make fuel false)))
      | .map => putAt place (.map (← entriesOf fuel node))
      | .set => putAt place (.set ((← entriesOf fuel node).map Prod.fst))
      | .ordered =>
          (← itemsOf node).forM (fun item => do
            let (keyNode, valueNode) ← pairOf item
            let key ← make fuel false keyNode
            checkKey key
            let entries :=
              match (← get).store.collectionAt place with
              | .ordered entries => entries
              | _ => []
            if (Draft.entry? key entries).isSome then throw .repeatedKey
            let value ← make fuel false valueNode
            putAt place (.ordered (entries ++ [(key, value)])))
      | .pairs =>
          (← itemsOf node).forM (fun item => do
            let (keyNode, valueNode) ← pairOf item
            let key ← make fuel false keyNode
            let value ← make fuel false valueNode
            let items :=
              match (← get).store.collectionAt place with
              | .list items => items
              | _ => []
            putAt place (.list (items ++ [.tuple [key, value]])))
      | _ => throw .malformed

/-- The entries of a mapping.  If it has merged others, a key may occur again. -/
def entriesOf : Nat → Nat → Assembling (List (Draft × Draft))
  | 0, _ => throw .malformed
  | fuel + 1, number => do
      flatten fuel number
      let node ← nodeAt number
      match node.content with
      | .mapping entries =>
          match node.merged with
          | none => return (← addAll fuel true entries).reverse
          | some merged =>
              let first ← addAll fuel false merged
              let second ← addAll fuel false entries
              return second.foldl (fun all (key, value) => Draft.setEntry key value all) first
      | _ => throw .malformed

def addAll : Nat → (unique : Bool) → List (Nat × Nat) → Assembling (List (Draft × Draft))
  | 0, _, _ => throw .malformed
  | fuel + 1, unique, entries =>
      entries.foldlM (fun found (keyNode, valueNode) => do
        let key ← asKey (← make fuel true keyNode)
        let value ← make fuel false valueNode
        addEntry unique found key value) []

end

/-- Fills collections, and those that this brings about, until none is left. -/
def fillAll : Nat → Nat → Assembling Unit
  | 0, _ => throw .malformed
  | rounds + 1, fuel => do
      match (← get).later.reverse with
      | [] => return ()
      | tasks =>
          modify ({ · with later := [] })
          tasks.forM (fill fuel)
          fillAll rounds fuel

def document (fuel root : Nat) : Assembling Graph := do
  let root ← make fuel false root
  fillAll fuel fuel
  let graph : Graph := { root, store := (← get).store }
  modify Assembly.cleared
  return graph

end Assembling

end Yaml

end InputDeck
