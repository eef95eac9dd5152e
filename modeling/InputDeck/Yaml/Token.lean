import InputDeck.Yaml.Version

/-!
The tokens of a YAML text.  Indentation becomes explicit: a block opens where its first entry
stands, and closes where a line stands further left.
-/

namespace InputDeck

namespace Yaml

inductive Token where
  | streamEnd
  | documentStart
  | documentEnd
  | version (major minor : Nat)
  | shorthand (handle start : List Char)
  | directive
  | sequenceStart
  | mappingStart
  | blockEnd
  | entry
  | key
  | value
  | flowSequenceStart
  | flowSequenceEnd
  | flowMappingStart
  | flowMappingEnd
  | flowEntry
  | alias (name : List Char)
  | anchor (name : List Char)
  | tag (handle : Option (List Char)) (suffix : List Char)
  | scalar (text : List Char) (plain : Bool)
deriving DecidableEq, Repr

namespace Token

def isDirective : Token → Bool
  | version _ _ | shorthand _ _ | directive => true
  | _ => false

/-- Whether a token can only come before or after the content of a document. -/
def isOutside (token : Token) : Bool :=
  token.isDirective || token == documentStart || token == documentEnd || token == streamEnd

end Token

end Yaml

end InputDeck
