import InputDeck.Schema.Check
import InputDeck.Schema.Metadata
import InputDeck.Value.Depth
import InputDeck.Yaml.Read

/-!
Reading the two dumps of an application.  A dump may stand between marker lines in other output.
A text that is too long or nested too deeply is refused.
-/

namespace InputDeck

namespace Schema

structure Markers where
  start : Text
  stop : Text
deriving DecidableEq, Repr

namespace Markers

def blocks : Markers :=
  ⟨"**START YAML DATA**\n".toList, "**END YAML DATA**\n".toList⟩

def metadata : Markers :=
  ⟨"**START JSON DATA**\n".toList, "**END JSON DATA**\n".toList⟩

/-- The text after the first start marker and before the last end marker.  A marker that is not
there, or an end marker before the start, cuts nothing off. -/
def strip (markers : Markers) (text : Text) : Text :=
  let first :=
    match Text.find? markers.start text with
    | some offset => offset + markers.start.length
    | none => 0
  let last :=
    match Text.findLast? markers.stop text with
    | some offset => if offset < first then text.length else offset
    | none => text.length
  (text.take last).drop first

end Markers

def sizeLimit : Int := 200000000

def depthLimit : Int := 128

def checkSize (limit : Int) (text : Text) : Except Failure Unit :=
  if limit < text.length then .error (.tooLarge text.length limit) else .ok ()

def checkDepth (limit : Int) (value : Value) : Except Failure Unit :=
  if value.isDeeperThan limit then .error (.tooDeep limit) else .ok ()

def nodesOfValue (path : Text) : Value → Except Failure (List Node)
  | .list items =>
      match Node.checkAll items with
      | .ok nodes => .ok nodes
      | .error faults => .error (.badNode path faults)
  | value => .error (.notList path value.sort)

/-- The blocks that a graph holds.  It has to be a list, and it may contain itself only where
the nesting of values is not counted. -/
def nodesOfGraph (path : Text) (graph : Yaml.Graph) : Except Failure (List Node) :=
  if graph.sort ≠ "list" then
    .error (.notList path graph.sort)
  else if graph.isDeeperThan depthLimit then
    .error (.tooDeep depthLimit)
  else
    nodesOfValue path (graph.value shownFields)

def failureOf (path : Text) : Yaml.Error → Failure
  | .malformed => .malformed .blocks path
  | error => .noValue error

/-- Reads the dump of blocks.  Dumps that are read one after another share a state. -/
def readNodes (limit : Int) (path text : Text) (state : Yaml.Assembly) :
    Except Failure (List Node) × Yaml.Assembly :=
  match checkSize limit text with
  | .error failure => (.error failure, state)
  | .ok () =>
      match state.read (Markers.blocks.strip text) with
      | (.ok graph, state) => (nodesOfGraph path graph, state)
      | (.error error, state) => (.error (failureOf path error), state)

def readMetadata (limit : Int) (path text : Text) : Except Failure MetadataTable := do
  checkSize limit text
  match Json.read (Markers.metadata.strip text) with
  | .ok value => Metadata.ofValue path value
  | .error .malformed => .error (.malformed .metadata path)
  | .error error => .error (.noMetadata error)

end Schema

end InputDeck
