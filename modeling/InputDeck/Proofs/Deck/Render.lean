import InputDeck.Layout
import InputDeck.Outline.Basic
import InputDeck.Proofs.Line.Assignment

/-!
Decks: what documents say, apart from where they say it.  Every deck has a canonical text, with one
row for each tag and each parameter, indented by level.
-/

namespace InputDeck

namespace Deck

structure Entry where
  name : Text
  value : Option Text
deriving DecidableEq, Repr

structure Sub where
  name : Text
  entries : List Entry
deriving DecidableEq, Repr

structure Top extends Sub where
  subs : List Sub
deriving DecidableEq, Repr

end Deck

/-- The blocks of a document with their parameters and sub-blocks. -/
abbrev Deck := List Deck.Top

namespace Deck

/-! The canonical text. -/

def Entry.row (entry : Entry) : Text :=
  Line.assignment entry.name (entry.value.elim [] (' ' :: ·))

def entryRows (width : Int) (level : Level) (entries : List Entry) : List Text :=
  entries.map fun entry => Layout.indentation width level.depth ++ entry.row

def Sub.rows (width : Int) (sub : Sub) : List Text :=
  [Layout.indentation width 1 ++ Level.sub.tag sub.name] ++ entryRows width .sub sub.entries ++
    [Layout.indentation width 1 ++ "[../]".toList]

def Top.rows (width : Int) (top : Top) : List Text :=
  [Layout.indentation width 0 ++ Level.top.tag top.name] ++ entryRows width .top top.entries ++
    top.subs.flatMap (Sub.rows width) ++ [Layout.indentation width 0 ++ "[]".toList]

def render (width : Int) (deck : Deck) : Text :=
  Text.joinWith ['\n'] (deck.flatMap (Top.rows width))

/-! The deck that an outline shows. -/

def Entry.ofParameter (parameter : Outline.Parameter) : Entry :=
  ⟨parameter.name, parameter.valueText?⟩

def Sub.ofBlock (block : Outline.Block) : Sub :=
  ⟨block.name, block.parameters.map Entry.ofParameter⟩

def Top.ofBlock (top : Outline.TopBlock) : Top :=
  { Sub.ofBlock top.toBlock with subs := top.children.map Sub.ofBlock }

/-! What can be written. -/

/-- A name that a block can have. -/
@[mk_iff]
structure IsName (name : Text) : Prop where
  nonempty : name ≠ []
  undotted : name.head? ≠ some '.'
  unslashed : '/' ∉ name
  unbracketed : ']' ∉ name
  uncommented : '#' ∉ name
  unbroken : '\n' ∉ name

/-- A value that reads as it is written. -/
@[mk_iff]
structure IsValue (value : Text) : Prop where
  nonempty : value ≠ []
  trimmed : Text.trim value = value
  uncommented : '#' ∉ value
  unbroken : '\n' ∉ value

@[mk_iff]
structure Entry.Valid (entry : Entry) : Prop where
  name : Line.IsParameterName entry.name
  value : ∀ value ∈ entry.value, IsValue value

@[mk_iff]
structure Sub.Valid (sub : Sub) : Prop where
  name : IsName sub.name
  entries : ∀ entry ∈ sub.entries, entry.Valid

@[mk_iff]
structure Top.Valid (top : Top) : Prop extends top.toSub.Valid where
  subs : ∀ sub ∈ top.subs, sub.Valid

/-- A deck whose names and values can be written in rows. -/
def Valid (deck : Deck) : Prop :=
  ∀ top ∈ deck, top.Valid

instance (name : Text) : Decidable (IsName name) :=
  decidable_of_iff _ (isName_iff name).symm

instance (value : Text) : Decidable (IsValue value) :=
  decidable_of_iff _ (isValue_iff value).symm

instance (entry : Entry) : Decidable entry.Valid :=
  decidable_of_iff _ (Entry.valid_iff entry).symm

instance (sub : Sub) : Decidable sub.Valid :=
  decidable_of_iff _ (Sub.valid_iff sub).symm

instance (top : Top) : Decidable top.Valid :=
  decidable_of_iff _ (Top.valid_iff top).symm

instance (deck : Deck) : Decidable deck.Valid :=
  inferInstanceAs (Decidable (∀ top ∈ deck, top.Valid))

end Deck

end InputDeck
