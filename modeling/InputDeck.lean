import InputDeck.Analysis.Assessment
import InputDeck.Analysis.Completion
import InputDeck.Analysis.Cursor
import InputDeck.Analysis.Reference
import InputDeck.Analysis.ValueType
import InputDeck.Base64
import InputDeck.Context
import InputDeck.Database
import InputDeck.Diagnostic
import InputDeck.Diagnostic.Check
import InputDeck.Document
import InputDeck.Edit
import InputDeck.FileTree
import InputDeck.Layout
import InputDeck.Line
import InputDeck.Loading.Cell
import InputDeck.Loading.Rehearsal
import InputDeck.Number.Binary64
import InputDeck.Number.Digits
import InputDeck.Number.Numeral
import InputDeck.Number.Shortest
import InputDeck.Number.Typed
import InputDeck.Outline.Basic
import InputDeck.Outline.Read
import InputDeck.Position
import InputDeck.Proofs.Analysis.Applied
import InputDeck.Proofs.Analysis.Candidates
import InputDeck.Proofs.Analysis.Convergence
import InputDeck.Proofs.Analysis.Corrections
import InputDeck.Proofs.Analysis.Declarations
import InputDeck.Proofs.Analysis.Independence
import InputDeck.Proofs.Analysis.Navigation
import InputDeck.Proofs.Analysis.Occurrences
import InputDeck.Proofs.Analysis.Offers
import InputDeck.Proofs.Analysis.Repair
import InputDeck.Proofs.Analysis.Spans
import InputDeck.Proofs.Analysis.Structure
import InputDeck.Proofs.Analysis.Switches
import InputDeck.Proofs.Context.Explicit
import InputDeck.Proofs.Context.Upward
import InputDeck.Proofs.Database.SingleFlight
import InputDeck.Proofs.Database.Superseded
import InputDeck.Proofs.Deck.RoundTrip
import InputDeck.Proofs.Diagnostic.Bounds
import InputDeck.Proofs.Document.Ranges
import InputDeck.Proofs.Edit.Carry
import InputDeck.Proofs.Edit.Order
import InputDeck.Proofs.Edit.Rewriting
import InputDeck.Proofs.Edit.Weaving
import InputDeck.Proofs.Layout.Findings
import InputDeck.Proofs.Layout.Fixpoint
import InputDeck.Proofs.Layout.Levels
import InputDeck.Proofs.Layout.Meaning
import InputDeck.Proofs.Layout.Tidy
import InputDeck.Proofs.Line.Columns
import InputDeck.Proofs.Line.Margins
import InputDeck.Proofs.Line.Openings
import InputDeck.Proofs.Line.Reading
import InputDeck.Proofs.Loading.Answers
import InputDeck.Proofs.Loading.Flights
import InputDeck.Proofs.Loading.Starts
import InputDeck.Proofs.Loading.Supersession
import InputDeck.Proofs.Outline.Concatenation
import InputDeck.Proofs.Outline.Grammar
import InputDeck.Proofs.Outline.Inventory
import InputDeck.Proofs.Outline.Placement
import InputDeck.Proofs.Outline.Rooted
import InputDeck.Proofs.Outline.Spans
import InputDeck.Proofs.Route.Resolution
import InputDeck.Proofs.Schema.Enclosed
import InputDeck.Proofs.Schema.Flattening
import InputDeck.Proofs.Schema.Nesting
import InputDeck.Proofs.Schema.Preorder
import InputDeck.Proofs.Schema.Types
import InputDeck.Proofs.Service.Filtering
import InputDeck.Proofs.Text.Rows
import InputDeck.Proofs.Text.Runs
import InputDeck.Route
import InputDeck.Schema.Catalog
import InputDeck.Schema.Check
import InputDeck.Schema.Dump
import InputDeck.Schema.Failure
import InputDeck.Schema.Match
import InputDeck.Schema.Metadata
import InputDeck.Schema.Node
import InputDeck.Service
import InputDeck.Settings.Basic
import InputDeck.Settings.Variables
import InputDeck.Table
import InputDeck.Text.Alphanumeric
import InputDeck.Text.Basic
import InputDeck.Text.Blank
import InputDeck.Text.Class
import InputDeck.Text.Half
import InputDeck.Text.Lower
import InputDeck.Text.Numeric
import InputDeck.Text.Printable
import InputDeck.Text.Quoted
import InputDeck.Text.Slice
import InputDeck.Text.Upper
import InputDeck.Validation
import InputDeck.Value.Basic
import InputDeck.Value.Depth
import InputDeck.Value.Display
import InputDeck.Value.Json
import InputDeck.Value.Key
import InputDeck.Value.Slots
import InputDeck.Yaml.Assembly
import InputDeck.Yaml.Cursor
import InputDeck.Yaml.Error
import InputDeck.Yaml.Form
import InputDeck.Yaml.Graph
import InputDeck.Yaml.Node
import InputDeck.Yaml.Property
import InputDeck.Yaml.Read
import InputDeck.Yaml.Resolve
import InputDeck.Yaml.Scalar
import InputDeck.Yaml.Scan
import InputDeck.Yaml.Tag
import InputDeck.Yaml.Timestamp
import InputDeck.Yaml.Token
import InputDeck.Yaml.Version
