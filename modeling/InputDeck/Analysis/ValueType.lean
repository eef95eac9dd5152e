import InputDeck.Text.Basic

/-!
The types of parameter values, as the schema names them, and the blocks that declare the names
which values of a type refer to.
-/

namespace InputDeck

namespace Analysis

namespace ValueType

def isElementChar (c : Char) : Bool :=
  c.isAlphanum || c == '_'

def skipBlank : Text → Text
  | c :: rest => if Text.isBlank c then rest else c :: rest
  | [] => []

def isEnd (text : Text) : Bool :=
  text == [] || text == ['\n']

/-- Whether a vector type ends here, with or without its allocator. -/
def closesVector (library element text : Text) : Bool :=
  let allocator := do
    let rest ← Text.dropStart? [','] text
    let rest ← Text.dropStart? ("std::".toList ++ library ++ "allocator<".toList) (skipBlank rest)
    let rest ← Text.dropStart? (element ++ ['>']) rest
    Text.dropStart? ['>'] (skipBlank rest)
  match allocator with
  | some rest => isEnd rest
  | none =>
      match text with
      | '>' :: rest => isEnd rest
      | _ => false

def elementIn? (library text : Text) : Option Text := do
  let rest ← Text.dropStart? "vector<".toList text
  let element := rest.takeWhile isElementChar
  if !element.isEmpty && closesVector library element (rest.dropWhile isElementChar) then
    some element
  else
    none

/-- The element type of a vector type.  A name may stand between `std::` and `vector`. -/
def element? (type : Text) : Option Text := do
  let rest ← Text.dropStart? "std::".toList type
  let inner := rest.takeWhile (· != ':')
  let named := do
    let after ← Text.dropStart? "::".toList (rest.dropWhile (· != ':'))
    if inner.isEmpty then none else elementIn? (inner ++ "::".toList) after
  named.or (elementIn? [] rest)

def namespaces : List (Text × List Text) := [
  ("VariableName".toList, ["Variables".toList, "AuxVariables".toList]),
  ("NonlinearVariableName".toList, ["Variables".toList]),
  ("AuxVariableName".toList, ["AuxVariables".toList]),
  ("FunctionName".toList, ["Functions".toList]),
  ("PostprocessorName".toList, ["Postprocessors".toList]),
  ("UserObjectName".toList, ["UserObjects".toList, "Postprocessors".toList]),
  ("VectorPostprocessorName".toList, ["VectorPostprocessors".toList]),
  ("MaterialPropertyName".toList, ["Materials".toList])]

/-- Where the names come from that are offered for values of a type: the top-level blocks, and
the parameters that describe a sub-block. -/
structure Source where
  blocks : List Text
  properties : List Text

def sources : List (Text × Source) :=
  let shape := ["order".toList, "family".toList]
  let object := ["type".toList]
  [ ("NonlinearVariableName".toList, ⟨["Variables".toList], shape⟩),
    ("AuxVariableName".toList, ⟨["AuxVariables".toList], shape⟩),
    ("VariableName".toList, ⟨["Variables".toList, "AuxVariables".toList], shape⟩),
    ("FunctionName".toList, ⟨["Functions".toList], object⟩),
    ("PostprocessorName".toList, ⟨["Postprocessors".toList], object⟩),
    ("UserObjectName".toList, ⟨["Postprocessors".toList, "UserObjects".toList], object⟩),
    ("VectorPostprocessorName".toList, ⟨["VectorPostprocessors".toList], object⟩)]

def outputs : List Text :=
  ["exodus".toList, "csv".toList, "console".toList, "gmv".toList, "gnuplot".toList,
    "nemesis".toList, "tecplot".toList, "vtk".toList, "xda".toList, "xdr".toList]

end ValueType

end Analysis

end InputDeck
