import InputDeck.Document
import InputDeck.FileTree
import InputDeck.Loading.Cell
import InputDeck.Schema.Catalog
import InputDeck.Schema.Dump

/-!
A database of one application's schema.  It is pointed at the dumps of the schema, loads them
when they are needed, and answers queries.  What goes wrong is reported, and the queries then
answer as if there were nothing in the schema.
-/

namespace InputDeck

open Schema (Failure Loaded Inquiry)

structure Sources where
  primary : Location
  secondary : Option Location
deriving DecidableEq, Repr

def Schema.Loaded.ofData (blocks : Value) (metadata : Option Text) : Except Failure Loaded := do
  let nodes ← Schema.nodesOfValue Document.unnamed blocks
  match metadata with
  | none => return { nodes }
  | some text =>
      return { nodes, metadata := ← Schema.readMetadata Schema.sizeLimit Document.unnamed text }

namespace FileTree

def locationAt (files : FileTree) (path : Text) : Except Text Location :=
  match files.locate path with
  | .ok location => .ok location
  | .error _ => .error path

def sourcesAt (files : FileTree) (primary : Text) (secondary : Option Text) :
    Except Text Sources := do
  let primary ← files.locationAt primary
  match secondary with
  | none => return { primary, secondary := none }
  | some path => return { primary, secondary := some (← files.locationAt path) }

def readDump (files : FileTree) (dump : Schema.Dump) (location : Location) :
    Except Failure Text :=
  match files.read location with
  | .error error => .error (.unreadable dump (files.pathOf location) error)
  | .ok bytes =>
      match decode? bytes with
      | some text => .ok text
      | none => .error .undecodable

def loadMetadata (files : FileTree) (location : Location) :
    Except Failure Schema.MetadataTable := do
  let text ← files.readDump .metadata location
  Schema.readMetadata Schema.sizeLimit (files.pathOf location) text

/-- The schema that the files at some sources hold.  Dumps that are read one after another share
a state. -/
def load (files : FileTree) (sources : Sources) (state : Yaml.Assembly) :
    Except Failure Loaded × Yaml.Assembly :=
  match files.readDump .blocks sources.primary with
  | .error failure => (.error failure, state)
  | .ok text =>
      let (found, state) :=
        Schema.readNodes Schema.sizeLimit (files.pathOf sources.primary) text state
      let loaded : Except Failure Loaded := do
        let nodes ← found
        match sources.secondary with
        | none => return { nodes }
        | some location => return { nodes, metadata := ← files.loadMetadata location }
      (loaded, state)

end FileTree

/-- Reads the schema that some sources name, with a state that goes from one load to the next. -/
abbrev Load := Sources → Yaml.Assembly → Except Failure Loaded × Yaml.Assembly

structure Database where
  sources : Option Sources := none
  system : Loading.System Sources Loaded := {}
  asked : Nat := 0
  /-- The queries that are told of a failure, which is then not reported. -/
  direct : List Nat := []
  /-- What the loads so far have left behind. -/
  state : Yaml.Assembly := {}
deriving Repr

namespace Database

open Loading (Outcome Phase)

inductive Event where
  | setSource (files : FileTree) (serving : Bool) (primary : Text) (secondary : Option Text)
  | reload (serving : Bool)
  | ask (direct : Bool)
  | land (number : Nat) (outcome : Outcome Loaded)
  | announce (number : Nat)
  | resume (query : Nat)
deriving Repr

def phase (db : Database) : Phase :=
  db.system.cell.phase

def reports (db : Database) : List Failure :=
  db.system.reports

def loads (db : Database) : Nat :=
  db.system.landings.length

def report (db : Database) (failure : Failure) : Database :=
  { db with system := db.system.report failure }

def reload (db : Database) (serving : Bool) : Database :=
  match db.sources with
  | none => db.report .noSource
  | some sources => { db with system := db.system.step (.request serving sources) }

/-- Points a database at two paths, if both lead somewhere; says whether they do.  The schema is
read again unless it comes from there already. -/
def setSource (db : Database) (files : FileTree) (serving : Bool) (primary : Text)
    (secondary : Option Text) : Bool × Database :=
  match files.sourcesAt primary secondary with
  | .error path => (false, db.report (.noSuchPath path))
  | .ok sources =>
      if db.sources = some sources ∧ db.phase ≠ .empty then
        (true, db)
      else
        (true, reload { db with sources := some sources } serving)

/-- Reports the failure of a query that is not told of it. -/
def tell (db : Database) (query : Nat) : Database :=
  match db.system.answer? query with
  | some (.failed failure) => if db.direct.contains query then db else db.report failure
  | _ => db

def ask (db : Database) (direct : Bool) : Database :=
  let query := db.asked
  tell
    { db with
      system := db.system.step (.ask query),
      asked := query + 1,
      direct := if direct then query :: db.direct else db.direct }
    query

def resume (db : Database) (query : Nat) : Database :=
  if db.system.waiting.any (fun waiter => waiter.query == query) then
    tell { db with system := db.system.step (.resume query) } query
  else
    db

def step (db : Database) : Event → Database
  | .setSource files serving primary secondary => (db.setSource files serving primary secondary).2
  | .reload serving => db.reload serving
  | .ask direct => db.ask direct
  | .land number outcome => { db with system := db.system.step (.land number outcome) }
  | .announce number => { db with system := db.system.step (.announce number) }
  | .resume query => db.resume query

def run (db : Database) (events : List Event) : Database :=
  events.foldl step db

@[simp]
theorem run_nil (db : Database) : db.run [] = db := rfl

@[simp]
theorem run_cons (db : Database) (event : Event) (events : List Event) :
    db.run (event :: events) = (db.step event).run events := rfl

theorem run_append (db : Database) (first second : List Event) :
    db.run (first ++ second) = (db.run first).run second :=
  List.foldl_append

def pointedAt (sources : Sources) : Database :=
  reload { sources := some sources } false

def ending : Except Failure Loaded → Outcome Loaded
  | .ok loaded => .loaded loaded
  | .error failure => .failed failure

def finish (load : Load) (db : Database) (flight : Loading.Flight Sources) : Database :=
  let (result, state) := load flight.load db.state
  step { db with state } (.land flight.number (ending result))

/-- Lets everything happen that can: loads end as `load` says, their ends are announced, and the
queries that waited for them go on. -/
def settle (load : Load) (db : Database) : Database :=
  let db := db.system.flights.foldl (finish load) db
  let db := db.run (db.system.unannounced.map .announce)
  db.run (db.system.waiting.map (fun waiter => .resume waiter.query))

def fetch (load : Load) (direct : Bool) (db : Database) :
    Except Failure Loaded × Database :=
  let query := db.asked
  let db := settle load (db.step (.ask direct))
  match db.system.answer? query with
  | some (.loaded loaded) => (.ok loaded, db)
  | some (.failed failure) => (.error failure, db)
  | _ => (.error .notLoaded, db)

def keep (db : Database) (loaded : Option Loaded) : Database :=
  match loaded with
  | none => db
  | some loaded =>
      { db with system := { db.system with cell := { db.system.cell with data := some loaded } } }

/-- Answers an inquiry.  The schema is asked for as often as the inquiry needs it. -/
def consult (load : Load) (inquiry : Inquiry α) (db : Database) :
    α × Database :=
  let (found, first) := db.fetch load false
  let (answer, catalog) := inquiry.run { loaded := found.toOption }
  match catalog.asked with
  | 0 => (answer, db)
  | again + 1 =>
      let db := again.repeat (fun db => (db.fetch load false).2) first
      (answer, db.keep catalog.loaded)

def nodes (load : Load) (db : Database) :
    Except Failure (List Schema.Node) × Database :=
  let (found, db) := db.fetch load true
  (found.map (·.nodes), db)

end Database

end InputDeck
