import InputDeck.Value.Display
import InputDeck.Value.Key
import InputDeck.Value.Slots

/-!
The values of a document while collections may still be filled, and may lie inside themselves.
Collections are kept in a store and are given by their places there.
-/

namespace InputDeck

namespace Yaml

inductive Draft where
  | scalar (value : Value)
  /-- The number that is none; the node that it comes from, or nothing for the one that its word
  always stands for. -/
  | nan (origin : Option Nat)
  | tuple (items : List Draft)
  | stored (place : Nat)
deriving Repr

inductive Collection where
  | list (items : List Draft)
  | set (members : List Draft)
  | map (entries : List (Draft × Draft))
  | ordered (entries : List (Draft × Draft))
deriving Repr

abbrev Store := Array Collection

namespace Collection

def sort : Collection → String
  | list _ => "list"
  | set _ => "set"
  | map _ => "dict"
  | ordered _ => "ordereddict"

/-- What the depth of a value counts: the items of a list and the values of a map. -/
def children : Collection → List Draft
  | list items => items
  | set _ => []
  | map entries | ordered entries => entries.map Prod.snd

def parts : Collection → List Draft
  | list items | set items => items
  | map entries | ordered entries => entries.flatMap (fun (key, value) => [key, value])

end Collection

def Store.collectionAt (store : Store) (place : Nat) : Collection :=
  store.getD place (.list [])

namespace Draft

mutual

def isSame : Draft → Draft → Bool
  | scalar a, scalar b => Value.isSameScalar a b
  | nan a, nan b => a == b
  | tuple a, tuple b => areSame a b
  | stored a, stored b => a == b
  | _, _ => false

def areSame : List Draft → List Draft → Bool
  | [], [] => true
  | a :: as, b :: bs => isSame a b && areSame as bs
  | _, _ => false

end

def setEntry (key value : Draft) : List (Draft × Draft) → List (Draft × Draft)
  | [] => [(key, value)]
  | (name, old) :: rest =>
      if isSame name key then (name, value) :: rest
      else (name, old) :: setEntry key value rest

def entry? (key : Draft) (entries : List (Draft × Draft)) : Option Draft :=
  (entries.find? (fun (name, _) => isSame name key)).map Prod.snd

mutual

/-- The sort of the first collection in a value, which therefore cannot be a key. -/
def collectionSort? (store : Store) : Draft → Option String
  | scalar _ | nan _ => none
  | tuple items => firstSort? store items
  | stored place => some (store.collectionAt place).sort

def firstSort? (store : Store) : List Draft → Option String
  | [] => none
  | item :: rest => (collectionSort? store item).or (firstSort? store rest)

end

mutual

def places : Draft → List Nat
  | scalar _ | nan _ => []
  | tuple items => placesOf items
  | stored place => [place]

def placesOf : List Draft → List Nat
  | [] => []
  | item :: rest => places item ++ placesOf rest

end

mutual

def isWritable : Draft → Bool
  | scalar value => value.isWritable
  | nan _ | stored _ => true
  | tuple items => areWritable items

def areWritable : List Draft → Bool
  | [] => true
  | item :: rest => isWritable item && areWritable rest

end

end Draft

namespace Store

/-- Which places have been seen; one more is marked unless it was. -/
def mark (seen : Array Bool) (found : List Nat) (place : Nat) : Array Bool × List Nat :=
  if seen.getD place true then (seen, found) else (seen.setIfInBounds place true, place :: found)

def unseen (seen : Array Bool) (places : List Nat) : Array Bool × List Nat :=
  places.foldl (fun (seen, found) place => mark seen found place) (seen, [])

/-- Whether all numbers in some values can be written, with those in collections that have not
been seen.  Each round but the last sees a collection. -/
def canWrite (store : Store) : Nat → Array Bool → List Draft → Bool
  | 0, _, _ => true
  | rounds + 1, seen, drafts =>
      Draft.areWritable drafts &&
        match unseen seen (Draft.placesOf drafts) with
        | (_, []) => true
        | (seen, places) =>
            let parts := places.flatMap (fun place => (store.collectionAt place).parts)
            canWrite store rounds seen parts

def areWritable (store : Store) (drafts : List Draft) : Bool :=
  canWrite store (store.size + 1) (Array.replicate store.size false) drafts

def reaches (store : Store) : Nat → List Nat → Bool
  | 0, places => !places.isEmpty
  | levels + 1, places =>
      let children := places.flatMap (fun place => (store.collectionAt place).children)
      match levels with
      | 0 => !children.isEmpty
      | _ + 1 =>
          let below := children.flatMap (fun child =>
            match child with
            | .stored place => [place]
            | _ => [])
          match unseen (Array.replicate store.size false) below with
          | (_, []) => false
          | (_, places) => reaches store levels places

end Store

structure Graph where
  root : Draft
  store : Store

namespace Graph

def sort (graph : Graph) : String :=
  match graph.root with
  | .scalar value => value.sort
  | .nan _ => "float"
  | .tuple _ => "tuple"
  | .stored place => (graph.store.collectionAt place).sort

def isDeeperThan (limit : Int) (graph : Graph) : Bool :=
  if limit < 0 then true else
    match graph.root with
    | .stored place => graph.store.reaches (limit.toNat + 1) [place]
    | _ => false

/-- The value at a draft.  A collection that is entered again on the way from `path` is not
followed.  The way starts anew at an entry with one of the keys `starts`, and from there on at no
other. -/
def valueAt (store : Store) : Nat → (starts : List Text) → (path : List Nat) → Draft → Value
  | 0, _, _, _ => .null
  | _ + 1, _, _, .scalar value => value
  | _ + 1, _, _, .nan _ => .float .nan
  | fuel + 1, starts, path, .tuple items => .tuple (items.map (valueAt store fuel starts path))
  | fuel + 1, starts, path, .stored place =>
      let again := path.contains place
      let inside := valueAt store fuel starts (place :: path)
      let entry := fun (key, value) =>
        match inside key with
        | .text name =>
            if starts.contains name then (Value.text name, valueAt store fuel [] [] value)
            else (.text name, inside value)
        | key => (key, inside value)
      match store.collectionAt place with
      | .list items => if again then .again .list else .list (items.map inside)
      | .set members => .set (Slots.listed (members.map inside))
      | .map entries => if again then .again .map else .map (entries.map entry)
      | .ordered entries => if again then .again .ordered else .ordered (entries.map entry)

/-- The value that a graph stands for; the values under the keys `starts` stand for
themselves.  Between two collections on a way there are at most two tuples. -/
def value (starts : List Text) (graph : Graph) : Value :=
  valueAt graph.store (3 * graph.store.size + 3) starts [] graph.root

end Graph

end Yaml

end InputDeck
