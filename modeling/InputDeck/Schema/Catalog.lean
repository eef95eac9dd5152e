import InputDeck.Schema.Match
import InputDeck.Schema.Metadata

/-!
Queries on a loaded schema.  A block is merged with its metadata when it is first found, and the
merged block is kept: it answers for every later block of the same path.
-/

namespace InputDeck

namespace Schema

structure Loaded where
  nodes : List Node
  metadata : MetadataTable := []
  merged : List (Text × Node) := []
deriving Repr

def Node.withMetadata (node : Node) (metadata : Metadata) : Node :=
  let given := fun (text : Option Text) => text.filter (fun t => !t.isEmpty)
  { node with
    description := (given metadata.description).getD node.description,
    file := (given metadata.file).or node.file }

namespace Loaded

/-- A block merged with its metadata, as it was when a block of its path was first merged. -/
def merge (node : Node) : StateM Loaded Node := do
  let loaded ← get
  match loaded.merged.lookup node.path with
  | some merged => return merged
  | none =>
      let merged :=
        match loaded.metadata.lookup node.path with
        | some metadata => node.withMetadata metadata
        | none => node
      set { loaded with merged := (node.path, merged) :: loaded.merged }
      return merged

def find? (path : List Text) : StateM Loaded (Option Match) := do
  match bestMatch (← get).nodes path with
  | none => return none
  | some found =>
      let node ← merge found.node
      return some { found with node }

def defaultType? (node : Node) : Option Text :=
  (node.parameters.filter (fun param => param.name == "type".toList)).getLast?.bind
    (fun param => param.default)

/-- The parameters of a block, those of its type first. -/
def parameters (path : List Text) (type : Option Text) : StateM Loaded (List Param) := do
  match ← find? path with
  | none => return []
  | some found =>
      let type := type.or (defaultType? found.node)
      match type with
      | none | some [] => return found.node.parameters
      | some type =>
          let typed ←
            match typedPath? path (some type) found.starLast with
            | some path => find? path
            | none => pure none
          match typed with
          | some typed =>
              if typed.node.path != found.node.path then
                return typed.node.parameters ++ found.node.parameters
              else
                return found.node.parameters
          | none => return found.node.parameters

def typesPath (path : List Text) (starLast : Bool) : List Text :=
  if starLast then path.dropLast else path ++ [typeSegment]

def mergeAll : List Node → StateM Loaded (List Node)
  | [] => return []
  | node :: rest => do
      let merged ← merge node
      return merged :: (← mergeAll rest)

def types (path : List Text) : StateM Loaded (List Node) := do
  match ← find? path with
  | none => return []
  | some found =>
      let above := typesPath path found.starLast
      if above.isEmpty then
        return []
      else
        match ← find? above with
        | none => return []
        | some parent =>
            mergeAll (parent.node.children.filter (fun node =>
              node.lastSegment != wildcard && node.lastSegment != typeSegment))

def subBlockPaths (loaded : Loaded) (path : List Text) : List Text :=
  distinct (offersIn path loaded.nodes)

end Loaded

/-- What queries find: a schema or none, and how often they have asked for it. -/
structure Catalog where
  loaded : Option Loaded := none
  asked : Nat := 0
deriving Repr

abbrev Inquiry (α : Type) := StateM Catalog α

namespace Inquiry

def ask (default : α) (query : StateM Loaded α) : Inquiry α := do
  let catalog ← get
  match catalog.loaded with
  | none =>
      set { catalog with asked := catalog.asked + 1 }
      return default
  | some loaded =>
      let (answer, loaded) := query.run loaded
      set ({ loaded := some loaded, asked := catalog.asked + 1 } : Catalog)
      return answer

def isLoaded : Inquiry Bool :=
  ask false (pure true)

def find? (path : List Text) : Inquiry (Option Match) :=
  if path.isEmpty then return none else ask none (Loaded.find? path)

def parameters (path : List Text) (type : Option Text) : Inquiry (List Param) :=
  if path.isEmpty then return [] else ask [] (Loaded.parameters path type)

def parameter? (path : List Text) (type : Option Text) (name : Text) :
    Inquiry (Option Param) := do
  return (← parameters path type).find? (fun param => param.name == name)

def types (path : List Text) : Inquiry (List Node) :=
  if path.isEmpty then return [] else ask [] (Loaded.types path)

def subBlockPaths (path : List Text) : Inquiry (List Text) :=
  ask [] (do return (← get).subBlockPaths path)

end Inquiry

end Schema

end InputDeck
