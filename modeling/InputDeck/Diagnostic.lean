import InputDeck.Position
import InputDeck.Text.Basic

/-!
What an analysis finds in a document: a problem, the span it concerns, and sometimes the edit
that corrects it.
-/

namespace InputDeck

inductive Kind where
  | closure
  | duplication
  | schema
  | reference
  | layout
deriving DecidableEq, Repr

namespace Kind

def all : List Kind :=
  [closure, duplication, schema, reference, layout]

def label : Kind → String
  | closure => "closure"
  | duplication => "duplication"
  | schema => "dbcheck"
  | reference => "refcheck"
  | layout => "format"

def ofLabel? (label : Text) : Option Kind :=
  all.find? (fun kind => kind.label.toList == label)

end Kind

inductive Switch where
  | active
  | inactive
deriving DecidableEq, Repr

def Switch.parameter : Switch → String
  | active => "active"
  | inactive => "inactive"

inductive Problem where
  | openedBeforeClosed
  | closedBeforeOpened
  | closedBeforeChild
  | childOutside
  | childBeforeClosed
  | childClosedOutside
  | childClosedInBlock
  | unclosed
  | duplicateBlock (name : Text)
  | duplicateParameter (name : Text)
  | unknownBlock (path : List Text)
  | unknownType (name : Text)
  | unknownParameter (name : Text)
  | missingParameters (names : List Text)
  | unknownChild (switch : Switch) (name : Text)
  | indentation (width : Nat)
  | blankRun
deriving DecidableEq, Repr

namespace Problem

def kind : Problem → Kind
  | openedBeforeClosed | closedBeforeOpened | closedBeforeChild | childOutside
  | childBeforeClosed | childClosedOutside | childClosedInBlock | unclosed => .closure
  | duplicateBlock _ | duplicateParameter _ => .duplication
  | unknownBlock _ | unknownType _ | unknownParameter _ | missingParameters _ => .schema
  | unknownChild _ _ => .reference
  | indentation _ | blankRun => .layout

def message : Problem → String
  | openedBeforeClosed => "block opened before previous closed"
  | closedBeforeOpened => "closed block before opening one"
  | closedBeforeChild => "closed parent block before closing children"
  | childOutside => "opening sub-block before main block"
  | childBeforeClosed => "sub-block opened before previous sub-block closed"
  | childClosedOutside => "closing sub-block when outside blocks"
  | childClosedInBlock => "closing sub-block when inside main block"
  | unclosed => "block(s) unclosed"
  | duplicateBlock name => s!"duplicate block name '{name.string}'"
  | duplicateParameter name => s!"duplicate parameter name '{name.string}'"
  | unknownBlock path => "block name does not exist: " ++ (Text.joinWith ['/'] path).string
  | unknownType name => "type name does not exist: " ++ name.string
  | unknownParameter name => "parameter name not found: " ++ name.string
  | missingParameters names =>
      "required parameter(s) missing: " ++ (Text.joinWith [',', ' '] names).string
  | unknownChild switch name => switch.parameter ++ " block does not exist: " ++ name.string
  | indentation width => s!"indentation should be {width} spaces"
  | blankRun => "multiple blank lines"

end Problem

/-- How to mend a problem: replace its span, or insert text at one of its ends. -/
inductive Correction where
  | replace (text : Text)
  | insertBefore (text : Text)
  | insertAfter (text : Text)
deriving DecidableEq, Repr

structure Diagnostic where
  problem : Problem
  start : Position
  stop : Position
  correction : Option Correction := none
deriving DecidableEq, Repr

namespace Diagnostic

def kind (diagnostic : Diagnostic) : Kind :=
  diagnostic.problem.kind

/-- Orders diagnostics by where they start; those that start together keep their order. -/
def sortByStart (diagnostics : List Diagnostic) : List Diagnostic :=
  diagnostics.mergeSort (fun a b => decide (a.start ≤ b.start))

end Diagnostic

end InputDeck
