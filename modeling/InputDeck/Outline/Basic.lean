import InputDeck.Diagnostic
import InputDeck.Line

/-!
The outline of a document: blocks that hold parameters and sub-blocks.  The dialect nests no
deeper, so a sub-block holds parameters only.
-/

namespace InputDeck

inductive Level where
  | top
  | sub
deriving DecidableEq, Repr

namespace Level

def depth : Level → Nat
  | top => 1
  | sub => 2

/-- The characters of an opening tag that are not part of the name. -/
def tagWidth : Level → Nat
  | top => 2
  | sub => 4

end Level

namespace Outline

structure Parameter where
  name : Text
  value : Option Placed
  description : Text := []
  start : Position
  stop : Position
deriving DecidableEq, Repr

def Parameter.valueText? (parameter : Parameter) : Option Text :=
  parameter.value.map (·.text)

def findParameter? (parameters : List Parameter) (name : Text) : Option Parameter :=
  parameters.find? (fun parameter => parameter.name == name)

structure Block where
  name : Text
  description : Text := []
  start : Position
  stop : Position
  parameters : List Parameter
deriving DecidableEq, Repr

/-- A block with its sub-blocks, and the names of those that are switched off. -/
structure TopBlock extends Block where
  children : List Block
  inactive : List Text := []
deriving DecidableEq, Repr

namespace Block

def headerEnd (level : Level) (block : Block) : Position :=
  ⟨block.start.row, block.start.column + block.name.length + level.tagWidth⟩

def parameter? (block : Block) (name : Text) : Option Parameter :=
  findParameter? block.parameters name

def valueOf? (block : Block) (name : Text) : Option Text :=
  ((block.parameter? name).bind Parameter.valueText?).map Text.unquote

def type? (block : Block) : Option Text :=
  block.valueOf? "type".toList

end Block

structure OpenBlock where
  name : Text
  start : Position
  parameters : List Parameter := []
deriving DecidableEq, Repr

def OpenBlock.close (block : OpenBlock) (stop : Position) : Block :=
  { name := block.name, start := block.start, stop, parameters := block.parameters }

/-- An open block with the sub-blocks it has so far, the last of which may be open. -/
structure OpenTop where
  block : OpenBlock
  children : List Block := []
  sub : Option OpenBlock := none
deriving DecidableEq, Repr

namespace OpenTop

def depth (top : OpenTop) : Nat :=
  if top.sub.isSome then 2 else 1

def innermost (top : OpenTop) : OpenBlock :=
  top.sub.getD top.block

def closeSub (top : OpenTop) (stop : Position) : OpenTop :=
  match top.sub with
  | some sub => { top with children := top.children ++ [sub.close stop], sub := none }
  | none => top

def close (top : OpenTop) (stop : Position) : TopBlock :=
  { top.block.close stop with children := (top.closeSub stop).children }

def addParameter (top : OpenTop) (parameter : Parameter) : OpenTop :=
  match top.sub with
  | some sub => { top with sub := some { sub with parameters := sub.parameters ++ [parameter] } }
  | none =>
      { top with
        block := { top.block with parameters := top.block.parameters ++ [parameter] } }

end OpenTop

end Outline

end InputDeck
