import InputDeck.Analysis.Assessment
import InputDeck.Database
import InputDeck.Settings.Basic

/-!
The service that an editor talks to: settings, and the schema database that they name.
-/

namespace InputDeck

structure Service where
  settings : Settings
  database : Database := {}
deriving Repr

namespace Service

open Schema (Inquiry)

/-- A service whose database is pointed at the dumps that the settings name.  They are read when
they are first needed. -/
def start (files : FileTree) (settings : Settings) : Service :=
  match settings.blocksPath with
  | none => { settings }
  | some path =>
      let db : Database := {}
      { settings, database := (db.setSource files false path settings.metadataPath).2 }

def setSchema (service : Service) (files : FileTree) (primary : Text) (secondary : Option Text) :
    Bool × Service :=
  let (found, database) := service.database.setSource files true primary secondary
  (found, { service with database })

def consult (service : Service) (files : FileTree) (inquiry : Inquiry α) : α × Service :=
  let (answer, database) := service.database.consult files.load inquiry
  (answer, { service with database })

structure Status where
  phase : Loading.Phase
  primary : Option Text
  secondary : Option Text
  messages : List String
deriving DecidableEq, Repr

def status (service : Service) (files : FileTree) : Status × Service :=
  let (_, service) := service.consult files Inquiry.isLoaded
  let db := service.database
  let status := {
    phase := db.phase,
    primary := db.sources.map (fun sources => files.pathOf sources.primary),
    secondary := (db.sources.bind (·.secondary)).map files.pathOf,
    messages := db.reports.map Schema.Failure.message }
  (status, service)

def enabledDiagnostics (settings : Settings) (doc : Document) : Inquiry (List Diagnostic) := do
  let width := if settings.enabled.contains .layout then some settings.tabWidth else none
  let assessment ← Analysis.assess doc width
  return assessment.diagnostics.filter (fun diagnostic => settings.enabled.contains diagnostic.kind)

def diagnostics (service : Service) (files : FileTree) (doc : Document) :
    List Diagnostic × Service :=
  service.consult files (enabledDiagnostics service.settings doc)

def format (settings : Settings) (doc : Document) : List Diagnostic × Except Slice.Miss Text :=
  let edits := doc.layoutDiagnostics settings.tabWidth
  (edits, doc.text.correct edits)

end Service

end InputDeck
