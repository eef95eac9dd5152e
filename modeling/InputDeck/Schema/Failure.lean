import InputDeck.Validation
import InputDeck.Value.Json
import InputDeck.Yaml.Error

/-!
Why there is no schema: its source is missing, cannot be read, or does not hold what it should.
-/

namespace InputDeck

inductive FileError where
  | notFound
  | isDirectory
  | notDirectory
deriving DecidableEq, Repr

namespace FileError

def code : FileError → Nat
  | notFound => 2
  | isDirectory => 21
  | notDirectory => 20

def reason : FileError → String
  | notFound => "No such file or directory"
  | isDirectory => "Is a directory"
  | notDirectory => "Not a directory"

def message (error : FileError) (path : Text) : String :=
  s!"[Errno {error.code}] {error.reason}: " ++ (Text.quoted path).string

end FileError

namespace Schema

inductive Dump where
  | blocks
  | metadata
deriving DecidableEq, Repr

def Dump.label : Dump → String
  | blocks => "schema"
  | metadata => "schema metadata"

inductive Failure where
  | noSuchPath (path : Text)
  | noSource
  | unreadable (dump : Dump) (path : Text) (error : FileError)
  | undecodable
  | tooLarge (size : Nat) (limit : Int)
  | tooDeep (limit : Int)
  | malformed (dump : Dump) (path : Text)
  | notList (path : Text) (sort : String)
  | notMap (path : Text)
  | badNode (path : Text) (faults : List Fault)
  | badMetadata (path : Text) (faults : List Fault)
  | notTable (sort : String)
  | noValue (error : Yaml.Error)
  | noMetadata (error : Json.Error)
  /-- Something that has nothing to do with the schema went wrong. -/
  | stray (reason : String)
  | broken (reason : String)
  | notLoaded
deriving DecidableEq, Repr

namespace Failure

inductive Family where
  | source
  | load
  | safety
  | notLoaded
  | shape
  | nesting
  | data (family : Yaml.Error.Family)
deriving DecidableEq, Repr

def family : Failure → Family
  | noSuchPath _ | noSource => .source
  | unreadable _ _ _ | malformed _ _ | notList _ _ | notMap _ | badNode _ _
  | badMetadata _ _ | broken _ => .load
  | tooLarge _ _ | tooDeep _ => .safety
  | notTable _ => .shape
  | undecodable | stray _ => .data .value
  | noMetadata (.tooNested _) => .nesting
  | noMetadata _ => .data .value
  | noValue error => .data error.family
  | notLoaded => .notLoaded

def message : Failure → String
  | noSuchPath path => "the path does not exist: " ++ path.string
  | noSource => "schema path not set"
  | unreadable dump path error =>
      s!"cannot read {dump.label} file " ++ path.string ++ ": " ++ error.message path
  | undecodable => "codec can't decode"
  | tooLarge size limit =>
      "schema document exceeds maximum size (" ++ (Digits.writeGrouped size).string ++
        " chars > " ++ (Digits.writeGrouped limit).string ++ " limit)"
  | tooDeep limit => s!"schema document exceeds maximum depth ({limit})"
  | malformed dump path => s!"malformed {dump.label} in " ++ path.string
  | notList path sort =>
      "malformed schema in " ++ path.string ++ s!": expected a list of root nodes, got {sort}"
  | notMap path => "malformed schema metadata in " ++ path.string ++ ": expected an object"
  | badNode path _ => "malformed schema node in " ++ path.string
  | badMetadata path _ => "malformed schema metadata in " ++ path.string
  | notTable sort => s!"'{sort}' object has no attribute 'items'"
  | noValue error => error.message
  | noMetadata error => error.message
  | stray reason => reason
  | broken reason => reason
  | notLoaded => "no schema loaded"

def faults? : Failure → Option (List Fault)
  | badNode _ faults | badMetadata _ faults => some faults
  | _ => none

/-- A failure as a load passes it on: what is no failure of a schema becomes one of loading. -/
def asLoad (failure : Failure) : Failure :=
  match failure.family with
  | .shape | .nesting | .data _ => broken failure.message
  | .source | .load | .safety | .notLoaded => failure

end Failure

end Schema

end InputDeck
