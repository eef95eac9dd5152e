import InputDeck.Value.Basic

/-!
How deeply lists and maps are nested, and the guard against values that are nested too deeply.
-/

namespace InputDeck

namespace Value

mutual

/-- The number of container levels below the root. -/
def depth : Value → Nat
  | list items => depthItems items
  | map items | ordered items => depthEntries items
  | null | bool _ | int _ | float _ | text _ | bytes _ | moment _ | tuple _ | set _ | again _ => 0

def depthItems : List Value → Nat
  | [] => 0
  | item :: rest => max (item.depth + 1) (depthItems rest)

def depthEntries : List (Value × Value) → Nat
  | [] => 0
  | (_, item) :: rest => max (item.depth + 1) (depthEntries rest)

end

/-- Whether a value on the list, or one inside it, is deeper than the limit.  Each value comes
with its own depth. -/
def anyDeeper (limit : Int) : List (Value × Nat) → Bool
  | [] => false
  | (value, depth) :: rest =>
      if limit < depth then
        true
      else
        anyDeeper limit (value.children.map (·, depth + 1) ++ rest)
termination_by pending => sizeItems (pending.map Prod.fst)
decreasing_by
  have smaller := sizeItems_children_lt value
  simp only [List.map_append, List.map_map, sizeItems_append, List.map_cons, sizeItems]
  simp only [Function.comp_def, List.map_id']
  omega

def isDeeperThan (limit : Int) (value : Value) : Bool :=
  anyDeeper limit [(value, 0)]

end Value

end InputDeck
