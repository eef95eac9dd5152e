import InputDeck.Diagnostic.Check
import InputDeck.FileTree
import InputDeck.Settings.Variables
import InputDeck.Text.Upper
import InputDeck.Validation
import InputDeck.Value.Json

/-!
Settings of the analysis.  They come from what is given, from variables of the environment, and
from a file that sets variables, in this order.
-/

namespace InputDeck

structure Settings where
  logLevel : Text := "INFO".toList
  blocksPath : Option Text := none
  metadataPath : Option Text := none
  tabWidth : Int := 4
  enabled : List Kind := Kind.all
deriving DecidableEq, Repr

namespace Settings

inductive Origin where
  | environment
  | file
deriving DecidableEq, Repr

def Origin.label : Origin → String
  | environment => "EnvSettingsSource"
  | file => "DotEnvSettingsSource"

inductive Error where
  | undecodable
  | unreadable (field : String) (origin : Origin)
  | tooNested (container : Json.Container)
  | invalid (faults : List Fault)
deriving DecidableEq, Repr

def Error.message : Error → String
  | undecodable => Schema.Failure.undecodable.message
  | unreadable field origin =>
      s!"error parsing value for field \"{field}\" from source \"{origin.label}\""
  | tooNested container => (Json.Error.tooNested container).message
  | invalid _ => "invalid settings"

def plainFields : List String :=
  ["log_level", "syntax_yaml_path", "syntax_json_path", "tab_spaces"]

def listField : String :=
  "diagnostics"

def entries (origin : Origin) (known : Variables) :
    Except Error (List (Value × Value)) := do
  let plain := plainFields.filterMap (fun field =>
    (known.find? field.toList).map (fun text => (.text field.toList, .text text)))
  match known.find? listField.toList with
  | none => return plain
  | some text =>
      match Json.read text with
      | .error (.tooNested container) => .error (.tooNested container)
      | .error _ => .error (.unreadable listField origin)
      | .ok .null => return plain
      | .ok value => return plain ++ [(.text listField.toList, value)]

def path : Value → Checked Text
  | .text t => .ok (FilePath.normalize t)
  | _ => Checked.fault .notPath

/-- Checks settings; those that are not given have their defaults. -/
def check (given : List (Value × Value)) : Checked Settings :=
  let make := fun logLevel blocksPath metadataPath tabWidth enabled =>
    { logLevel, blocksPath, metadataPath, tabWidth, enabled }
  let default : Settings := {}
  Checked.apply
    (Checked.apply
      (Checked.apply
        (Checked.apply
          (Checked.apply (.ok make)
            (Checked.defaulted "log_level" default.logLevel Checked.text given))
          (Checked.defaulted "syntax_yaml_path" default.blocksPath
            (Checked.optional path) given))
        (Checked.defaulted "syntax_json_path" default.metadataPath
          (Checked.optional path) given))
      (Checked.defaulted "tab_spaces" default.tabWidth Checked.integer given))
    (Checked.defaulted listField default.enabled (Checked.list Kind.check) given)

def fileVariables (files : FileTree) (environment : Variables) : Except Error Variables :=
  match files.read (files.current ++ [".env".toList]) with
  | .ok bytes =>
      match FileTree.decode? bytes with
      | some text => .ok (Variables.read environment text)
      | none => .error .undecodable
  | .error _ => .ok []

def read (files : FileTree) (environment : Variables) (given : List (Value × Value)) :
    Except Error Settings := do
  let inFile ← fileVariables files environment
  let fromEnvironment ← entries .environment environment
  let fromFile ← entries .file inFile
  match check (given ++ fromEnvironment ++ fromFile) with
  | .ok settings => return settings
  | .error faults => .error (.invalid faults)

def shownLogLevel (settings : Settings) : Text :=
  Text.upper settings.logLevel

end Settings

end InputDeck
