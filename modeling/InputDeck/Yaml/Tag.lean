import InputDeck.Yaml.Error

/-!
Tags: they say what the content of a node stands for.  Those of the core schema have a common
start; all others are unknown.
-/

namespace InputDeck

namespace Yaml

inductive Tag where
  | null
  | bool
  | int
  | float
  | text
  | bytes
  | moment
  | list
  | map
  | set
  | ordered
  | pairs
  /-- The key that takes over the entries of other mappings. -/
  | merge
  /-- The key of the value that a mapping has as a scalar. -/
  | default
  | unknown
deriving DecidableEq, Repr

namespace Tag

def coreStart : Text :=
  "tag:yaml.org,2002:".toList

def core : List (String × Tag) := [
  ("null", null), ("bool", bool), ("int", int), ("float", float), ("str", text),
  ("binary", bytes), ("timestamp", moment), ("seq", list), ("map", map), ("set", set),
  ("omap", ordered), ("pairs", pairs), ("merge", merge), ("value", default)]

def ofName (name : Text) : Tag :=
  match Text.dropStart? coreStart name with
  | some rest => ((core.find? (fun (word, _) => word.toList == rest)).map Prod.snd).getD unknown
  | none => unknown

def defaultShorthands : List (Text × Text) :=
  [(['!'], ['!']), (['!', '!'], coreStart)]

/-- The full name after the two digits that follow each percent sign are replaced by the
character with that code. -/
def decode : Text → Except Error Text
  | '%' :: a :: b :: rest => do return (← codeOf [a, b]) :: (← decode rest)
  | '%' :: short => do return [← codeOf short]
  | c :: rest => do return c :: (← decode rest)
  | [] => .ok []
where
  codeOf (digits : Text) : Except Error Char :=
    match Numeral.whole 16 digits with
    | .error error => .error (.noWholeNumber error)
    | .ok code => if code < 0 then .error .noCharacter else .ok (Char.ofNat code.toNat)

end Tag

end Yaml

end InputDeck
