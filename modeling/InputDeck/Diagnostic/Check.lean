import InputDeck.Edit
import InputDeck.Validation

/-!
Reading diagnostics from data.  Only the edit that a diagnostic asks for is kept.
-/

namespace InputDeck

def Kind.check : Value → Checked Kind
  | .text label =>
      match ofLabel? label with
      | some kind => .ok kind
      | none => Checked.fault .notMember
  | _ => Checked.fault .notMember

def Position.check : Value → Checked Position
  | .map entries =>
      Checked.apply
        (Checked.apply (.ok Position.mk) (Checked.required "row" Checked.integer entries))
        (Checked.required "column" Checked.integer entries)
  | _ => Checked.fault .notMap

namespace Correction

def only? (replace before after : Option Text) : Option Correction :=
  match replace, before, after with
  | some text, none, none => some (.replace text)
  | none, some text, none => some (.insertBefore text)
  | none, none, some text => some (.insertAfter text)
  | _, _, _ => none

/-- Reads a correction: exactly one of three texts has to be given. -/
def check : Value → Checked Correction
  | .map entries =>
      let given := fun name =>
        Checked.defaulted name none (Checked.optional Checked.text) entries
      let correction :=
        Checked.apply
          (Checked.apply (Checked.apply (.ok only?) (given "replace")) (given "insertion_before"))
          (given "insertion_after")
      match correction with
      | .error faults => .error faults
      | .ok none => Checked.fault .inconsistent
      | .ok (some correction) => .ok correction
  | _ => Checked.fault .notMap

end Correction

namespace Edit

def check : Value → Checked (Option Edit)
  | .map entries =>
      let make := fun (_ : Kind) start stop (_ : Text) (correction : Option Correction) =>
        correction.map (fun correction => { start, stop, correction })
      Checked.apply
        (Checked.apply
          (Checked.apply
            (Checked.apply
              (Checked.apply (.ok make) (Checked.required "type" Kind.check entries))
              (Checked.required "start" Position.check entries))
            (Checked.required "end" Position.check entries))
          (Checked.required "msg" Checked.text entries))
        (Checked.defaulted "correction" none (Checked.optional Correction.check) entries)
  | _ => Checked.fault .notMap

def checkAll : List Value → Checked (List Edit)
  | [] => .ok []
  | item :: rest => do
      let edit ← check item
      return edit.toList ++ (← checkAll rest)

end Edit

end InputDeck
