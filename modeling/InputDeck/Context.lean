import InputDeck.Document
import InputDeck.Line
import InputDeck.Route

/-!
The block that a cursor stands in, found by reading upwards.  Tags are collected until one names
a block from the top; the segments of the tags in between cancel out the blocks that are closed.
-/

namespace InputDeck

structure Context where
  path : List Text := []
  type : Option Text := none
deriving DecidableEq, Repr

namespace Context

def tag? (row : Text) : Option Text :=
  match Text.trimStart row with
  | '[' :: rest =>
      match rest.dropWhile (· != ']') with
      | _ :: _ => some (rest.takeWhile (· != ']'))
      | [] => none
  | _ => none

def typeWord? (row : Text) : Option Text := do
  let rest ← Text.dropStart? "type".toList (Text.trimStart row)
  let value ← Text.dropStart? ['='] (Text.trimStart rest)
  let word := (Text.trimStart value).takeWhile (fun c => !(Text.isBlank c || c == '#'))
  if word.isEmpty then none else some word

/-- The tag segments and the type rows met so far, both from the top down; each type comes with
the segments met after it. -/
structure Trail where
  segments : List Text := []
  types : List (Text × List Text) := []
deriving DecidableEq, Repr

namespace Trail

/-- Puts the segments of a tag before all that was met below it. -/
def enter (trail : Trail) (segments : List Text) : Trail :=
  ⟨segments ++ trail.segments,
    trail.types.map (fun (type, path) => (type, segments ++ path))⟩

/-- The block that the trail leads to, with the topmost type given to that block. -/
def context (trail : Trail) : Context :=
  let path := Route.normalize trail.segments
  ⟨path, (trail.types.find? (fun (_, below) => Route.normalize below == path)).map Prod.fst⟩

end Trail

def isRelative (segments : List Text) : Bool :=
  match segments with
  | first :: _ => first == ['.'] || first == ['.', '.']
  | [] => false

def scan (trail : Trail) : List Text → Context
  | [] => {}
  | row :: above =>
      match tag? row with
      | some [] => {}
      | some tag =>
          let segments := Text.splitOn '/' tag
          let trail := trail.enter segments
          if isRelative segments then scan trail above else trail.context
      | none =>
          match typeWord? row with
          | some type => scan { trail with types := (type, []) :: trail.types } above
          | none => scan trail above

end Context

def Document.context (doc : Document) (position : Position) : Except RangeError Context := do
  let row ← doc.range ⟨position.row, 0⟩ position
  let above := (doc.rows.take position.row.toNat).reverse
  return Context.scan {} ((row :: above).map Line.uncommented)

end InputDeck
