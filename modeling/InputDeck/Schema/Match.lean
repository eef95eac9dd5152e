import InputDeck.Schema.Node

/-!
Finding the block that a path names.  A star in a block's path agrees with any segment; of all
blocks that agree, the one with the fewest stars is taken, and the first of those.
-/

namespace InputDeck

namespace Schema

/-- A block found for a path, with the number of its stars, and whether the last is one. -/
structure Match where
  node : Node
  stars : Nat
  starLast : Bool
deriving Repr

/-- Whether segments agree with those of a path, as far as both go. -/
def agrees : List Text → List Text → Bool
  | segment :: segments, part :: path =>
      (segment == wildcard || segment == part) && agrees segments path
  | _, _ => true

def Match.of (node : Node) : Match :=
  ⟨node, node.segments.count wildcard, node.lastSegment == wildcard⟩

mutual

def Node.matches (path : List Text) : Node → List Match
  | ⟨name, description, parameters, holdsBlocks, children, file⟩ =>
      let node : Node := ⟨name, description, parameters, holdsBlocks, children, file⟩
      let segments := node.segments
      if segments.length ≤ path.length ∧ agrees segments path then
        if segments.length = path.length then [.of node] else matchesIn path children
      else
        []

def matchesIn (path : List Text) : List Node → List Match
  | [] => []
  | node :: rest => node.matches path ++ matchesIn path rest

end

/-- The match with the fewest stars, the first of those. -/
def leastStars : List Match → Option Match
  | [] => none
  | found :: rest =>
      match leastStars rest with
      | some better => if better.stars < found.stars then some better else some found
      | none => some found

def bestMatch (nodes : List Node) (path : List Text) : Option Match :=
  leastStars (matchesIn path nodes)

def Node.liesAlong (node : Node) (path : List Text) : Bool :=
  agrees node.segments path

/-- Whether a block is offered below a path: it may hold others, or stands for any. -/
def Node.isOffered (node : Node) (path : List Text) : Bool :=
  ((node.holdsBlocks && node.lastSegment != typeSegment) || node.lastSegment == wildcard) &&
    path.length < node.segments.length

mutual

def Node.offers (path : List Text) : Node → List Text
  | ⟨name, description, parameters, holdsBlocks, children, file⟩ =>
      let node : Node := ⟨name, description, parameters, holdsBlocks, children, file⟩
      if node.liesAlong path then
        let own := if node.isOffered path then [node.path] else []
        let below :=
          if node.holdsBlocks && node.lastSegment != typeSegment then offersIn path children
          else []
        own ++ below
      else
        []

def offersIn (path : List Text) : List Node → List Text
  | [] => []
  | node :: rest => node.offers path ++ offersIn path rest

end

def distinct : List Text → List Text
  | [] => []
  | text :: rest => text :: (distinct rest).filter (· != text)

theorem mem_distinct {text : Text} {texts : List Text} : text ∈ distinct texts ↔ text ∈ texts := by
  induction texts with
  | nil => rfl
  | cons first rest ih =>
      rw [distinct, List.mem_cons, List.mem_cons, List.mem_filter, ih]
      by_cases same : text = first
      · simp [same]
      · simp [same]

theorem nodup_distinct (texts : List Text) : (distinct texts).Nodup := by
  induction texts with
  | nil => exact List.nodup_nil
  | cons first rest ih =>
      rw [distinct, List.nodup_cons]
      exact ⟨by simp, ih.filter _⟩

end Schema

end InputDeck
