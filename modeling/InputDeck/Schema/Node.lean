import InputDeck.Text.Basic

/-!
The schema of an application: the blocks it knows and the parameters that each of them takes.
A block's name is its path, such as `/Kernels/*`, where a star stands for any segment.
-/

namespace InputDeck

namespace Schema

structure Param where
  name : Text
  required : Bool := false
  default : Option Text := none
  type : Text := []
  group : Option Text := none
  description : Text := []
  options : Option Text := none
deriving DecidableEq, Repr

def Param.optionWords (param : Param) : List Text :=
  Text.words (param.options.getD [])

structure Node where
  name : Text
  description : Text := []
  parameters : List Param := []
  /-- Whether the block may hold others.  An object type may not. -/
  holdsBlocks : Bool := false
  children : List Node := []
  file : Option Text := none
deriving Repr

def wildcard : Text :=
  ['*']

def typeSegment : Text :=
  "<type>".toList

namespace Node

def path (node : Node) : Text :=
  node.name.dropWhile (· == '/')

def segments (node : Node) : List Text :=
  Text.splitOn '/' node.path

def lastSegment (node : Node) : Text :=
  node.segments.getLast (Text.splitOn_ne_nil '/' node.path)

end Node

/-- The path of the object type that a block is given.  Where the block was found by a star at
the end of a path, the type stands in its place. -/
def typedPath? (path : List Text) (type : Option Text) (starLast : Bool) : Option (List Text) :=
  match type with
  | none | some [] => some path
  | some type =>
      if starLast then
        if path.isEmpty then none else some (path.dropLast ++ [type])
      else
        some (path ++ [typeSegment, type])

end Schema

end InputDeck
