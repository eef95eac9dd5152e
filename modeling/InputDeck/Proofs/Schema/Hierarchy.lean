import InputDeck.Proofs.Text.Rows
import InputDeck.Schema.Metadata

/-!
Hierarchies of blocks, as the second dump has them.  A block has a type, a star, types below the
star, types of sub-blocks and sub-blocks; each of these is an entity with a place, and the key of a
place tells it from the other places at which there is an entity.
-/

namespace InputDeck

open Text

namespace Schema

namespace Metadata

/-! Reading entries. -/

/-- The value of a member, null if it is not given. -/
def valueAt (member : String) (entry : Entries) : Value :=
  (Value.lookup member.toList entry).getD .null

def textAt (member : String) (entry : Entries) : Option Text :=
  match valueAt member entry with
  | .text text => some text
  | _ => none

def mapAt (member : String) (entry : Entries) : Option Entries :=
  match valueAt member entry with
  | .map fields => some fields
  | _ => none

theorem mapAt_eq_some_iff {member : String} {entry fields : Entries} :
    mapAt member entry = some fields ↔
      Value.lookup member.toList entry = some (.map fields) := by
  unfold mapAt valueAt
  cases Value.lookup member.toList entry with
  | none => simp
  | some value => cases value <;> simp

/-- The entries of a table that are maps, with their names. -/
def named : Entries → List (Text × Entries)
  | [] => []
  | (.text name, .map fields) :: rest => (name, fields) :: named rest
  | _ :: rest => named rest

def members (member : String) (entry : Entries) : List (Text × Entries) :=
  named ((mapAt member entry).getD [])

def firstFile (entry : Entries) : Option Text :=
  match mapAt "file_info" entry with
  | some ((.text file, _) :: _) => some file
  | _ => none

def stated (entry : Entries) : Metadata where
  description := (textAt "description" entry).filter (fun text => !text.isEmpty)
  file := (textAt "register_file" entry).or (firstFile entry)

/-! Entities and their keys. -/

/-- What an entity is to a block. -/
inductive Role where
  | block
  | type (name : Text)
  | star
  | starType (name : Text)
  | subType (name : Text)
deriving DecidableEq, Repr

namespace Role

/-- The end of the key of an entity, behind the path of the block. -/
def segments : Role → List Text
  | block => []
  | type name => ["<type>".toList, name]
  | star => ["*".toList]
  | starType name | subType name => [name]

def entity? (block : Entries) : Role → Option Entries
  | .block => some block
  | type name => (members "types" block).lookup name
  | star => mapAt "star" block
  | starType name => (mapAt "star" block).bind fun star =>
      (members "subblock_types" star).lookup name
  | subType name => (members "subblock_types" block).lookup name

end Role

/-- Where an entity stands: the names from the top down to a block, and what it is to the block. -/
structure Place where
  path : List Text
  role : Role
deriving DecidableEq, Repr

namespace Place

def segments (place : Place) : List Text :=
  place.path ++ place.role.segments

/-- The key of an entity. -/
def key (place : Place) : Text :=
  joinWith ['/'] place.segments

end Place

def descend (block : Entries) : List Text → Option Entries
  | [] => some block
  | name :: path => ((members "subblocks" block).lookup name).bind (descend · path)

def blockAt (blocks : Entries) : List Text → Option Entries
  | [] => none
  | name :: path => ((named blocks).lookup name).bind (descend · path)

/-- The entity at a place in a hierarchy. -/
def entityAt (blocks : Entries) (place : Place) : Option Entries :=
  (blockAt blocks place.path).bind place.role.entity?

/-! Hierarchies in which each entity has a key of its own. -/

def marks : List Text :=
  ["<type>".toList, "*".toList]

structure IsName (name : Text) : Prop where
  nonempty : name ≠ []
  whole : '/' ∉ name
  unmarked : ∀ mark ∈ marks, name ≠ mark

instance (name : Text) : Decidable (IsName name) :=
  decidable_of_iff (name ≠ [] ∧ '/' ∉ name ∧ ∀ mark ∈ marks, name ≠ mark)
    ⟨fun ⟨nonempty, whole, unmarked⟩ => ⟨nonempty, whole, unmarked⟩,
      fun valid => ⟨valid.nonempty, valid.whole, valid.unmarked⟩⟩

/-- Whether a value is not given, or a text. -/
def isText : Value → Bool
  | .null | .text _ => true
  | _ => false

def isMap : Value → Bool
  | .null | .map _ => true
  | _ => false

def isKey : Value → Bool
  | .text _ => true
  | _ => false

/-- An entry whose description and file are texts, as far as they are given. -/
structure Described (entry : Entries) : Prop where
  description : isText (valueAt "description" entry) = true
  file : isText (valueAt "register_file" entry) = true
  listed : ∀ files ∈ mapAt "file_info" entry, ∀ file ∈ files, isKey file.1 = true

instance (entry : Entries) : Decidable (Described entry) :=
  decidable_of_iff (isText (valueAt "description" entry) = true ∧
      isText (valueAt "register_file" entry) = true ∧
      ∀ files ∈ mapAt "file_info" entry, ∀ file ∈ files, isKey file.1 = true)
    ⟨fun ⟨description, file, listed⟩ => ⟨description, file, listed⟩,
      fun described => ⟨described.description, described.file, described.listed⟩⟩

/-- Entries under distinct names. -/
structure Proper (entries : List (Text × Entries)) : Prop where
  distinct : (entries.map Prod.fst).Nodup
  name : ∀ entry ∈ entries, IsName entry.1
  described : ∀ entry ∈ entries, Described entry.2

instance (entries : List (Text × Entries)) : Decidable (Proper entries) :=
  decidable_of_iff ((entries.map Prod.fst).Nodup ∧ (∀ entry ∈ entries, IsName entry.1) ∧
      ∀ entry ∈ entries, Described entry.2)
    ⟨fun ⟨distinct, name, described⟩ => ⟨distinct, name, described⟩,
      fun proper => ⟨proper.distinct, proper.name, proper.described⟩⟩

structure IsTable (member : String) (entry : Entries) : Prop where
  given : isMap (valueAt member entry) = true
  proper : Proper (members member entry)

instance (member : String) (entry : Entries) : Decidable (IsTable member entry) :=
  decidable_of_iff (isMap (valueAt member entry) = true ∧ Proper (members member entry))
    ⟨fun ⟨given, proper⟩ => ⟨given, proper⟩, fun table => ⟨table.given, table.proper⟩⟩

def starTypes (block : Entries) : List (Text × Entries) :=
  (mapAt "star" block).elim [] (members "subblock_types")

def Apart (entries others : List (Text × Entries)) : Prop :=
  ∀ entry ∈ entries, ∀ other ∈ others, entry.1 ≠ other.1

instance (entries others : List (Text × Entries)) : Decidable (Apart entries others) :=
  inferInstanceAs (Decidable (∀ entry ∈ entries, ∀ other ∈ others, entry.1 ≠ other.1))

/-- The form of a block without that of its sub-blocks. -/
structure BlockForm (block : Entries) : Prop where
  types : IsTable "types" block
  subTypes : IsTable "subblock_types" block
  subBlocks : IsTable "subblocks" block
  star : ∀ star ∈ mapAt "star" block, Described star ∧ IsTable "subblock_types" star
  apart : [members "subblocks" block, members "subblock_types" block,
    starTypes block].Pairwise Apart

instance (block : Entries) : Decidable (BlockForm block) :=
  decidable_of_iff (IsTable "types" block ∧ IsTable "subblock_types" block ∧
      IsTable "subblocks" block ∧
      (∀ star ∈ mapAt "star" block, Described star ∧ IsTable "subblock_types" star) ∧
      [members "subblocks" block, members "subblock_types" block,
        starTypes block].Pairwise Apart)
    ⟨fun ⟨types, subTypes, subBlocks, star, apart⟩ => ⟨types, subTypes, subBlocks, star, apart⟩,
      fun form => ⟨form.types, form.subTypes, form.subBlocks, form.star, form.apart⟩⟩

/-- A block that has its form, and so have its sub-blocks. -/
inductive WellFormed : Entries → Prop where
  | intro {block : Entries} (form : BlockForm block)
      (below : ∀ sub ∈ members "subblocks" block, WellFormed sub.2) : WellFormed block

/-- Named blocks that have their form. -/
structure Hierarchy (blocks : Entries) : Prop where
  proper : Proper (named blocks)
  formed : ∀ block ∈ named blocks, WellFormed block.2

/-! Blocks below a block have its form. -/

section Descent

variable {blocks block found : Entries} {path : List Text}

theorem WellFormed.form (formed : WellFormed block) : BlockForm block := by
  cases formed with
  | intro form below => exact form

theorem descend_append (block : Entries) (path more : List Text) :
    descend block (path ++ more) = (descend block path).bind (descend · more) := by
  induction path generalizing block with
  | nil => rfl
  | cons name path ih => simp only [List.cons_append, descend, ih, Option.bind_assoc]

theorem WellFormed.descend (formed : WellFormed block)
    (here : descend block path = some found) :
    WellFormed found ∧ ∀ name ∈ path, IsName name := by
  induction path generalizing block with
  | nil =>
      obtain rfl := Option.some.inj here
      exact ⟨formed, nofun⟩
  | cons name path ih =>
      obtain ⟨sub, inside, later⟩ := Option.bind_eq_some_iff.mp here
      have member := Table.mem_of_lookup inside
      cases formed with
      | intro form below =>
          obtain ⟨formed, names⟩ := ih (below _ member) later
          exact ⟨formed, List.forall_mem_cons.mpr
            ⟨form.subBlocks.proper.name _ member, names⟩⟩

theorem Hierarchy.blockAt (hierarchy : Hierarchy blocks)
    (here : blockAt blocks path = some block) :
    WellFormed block ∧ path ≠ [] ∧ ∀ name ∈ path, IsName name := by
  cases path with
  | nil => cases here
  | cons name path =>
      obtain ⟨top, inside, later⟩ := Option.bind_eq_some_iff.mp here
      have member := Table.mem_of_lookup inside
      obtain ⟨formed, names⟩ := (hierarchy.formed _ member).descend later
      exact ⟨formed, List.cons_ne_nil name path, List.forall_mem_cons.mpr
        ⟨hierarchy.proper.name _ member, names⟩⟩

theorem blockAt_concat (here : blockAt blocks path = some block) (name : Text) :
    blockAt blocks (path ++ [name]) = (members "subblocks" block).lookup name := by
  cases path with
  | nil => cases here
  | cons first path =>
      obtain ⟨top, inside, later⟩ := Option.bind_eq_some_iff.mp here
      rw [List.cons_append, Metadata.blockAt, inside, Option.bind_some, descend_append, later]
      simp [Metadata.descend]

end Descent

/-! A key has the names of a place in front of its mark, and both tell it from other places. -/

namespace Role

def names : Role → List Text
  | starType name | subType name => [name]
  | block | type _ | star => []

def mark : Role → List Text
  | type name => ["<type>".toList, name]
  | star => ["*".toList]
  | block | starType _ | subType _ => []

theorem segments_eq (role : Role) : role.segments = role.names ++ role.mark := by
  cases role <;> rfl

theorem takeWhile_mark (role : Role) : role.mark.takeWhile (· ∉ marks) = [] := by
  cases role <;> rfl

theorem names_cases (role : Role) :
    role.names = [] ∨ (∃ name, role.names = [name]) ∧ role.mark = [] := by
  cases role with
  | block | type _ | star => exact .inl rfl
  | starType name | subType name => exact .inr ⟨⟨name, rfl⟩, rfl⟩

theorem eq_of_mark {role other : Role} (unnamed : role.names = []) (alike : other.names = [])
    (mark : role.mark = other.mark) : role = other := by
  cases role <;> cases other <;> simp_all [Role.names, Role.mark]

end Role

section Keys

variable {blocks block entry another : Entries} {role twin : Role} {place other : Place}

theorem BlockForm.names_of_entry (form : BlockForm block)
    (here : role.entity? block = some entry) :
    (∀ name ∈ role.names, IsName name) ∧ ∀ segment ∈ role.mark, '/' ∉ segment := by
  cases role with
  | block => exact ⟨nofun, nofun⟩
  | type name =>
      have valid := form.types.proper.name _ (Table.mem_of_lookup here)
      exact ⟨nofun, by simpa [Role.mark] using valid.whole⟩
  | star => exact ⟨nofun, by simp [Role.mark]⟩
  | starType name =>
      obtain ⟨star, given, below⟩ := Option.bind_eq_some_iff.mp here
      have valid := (form.star star given).2.proper.name _ (Table.mem_of_lookup below)
      exact ⟨by simpa [Role.names] using valid, nofun⟩
  | subType name =>
      have valid := form.subTypes.proper.name _ (Table.mem_of_lookup here)
      exact ⟨by simpa [Role.names] using valid, nofun⟩

theorem mem_starTypes {name : Text} (here : (Role.starType name).entity? block = some entry) :
    (name, entry) ∈ starTypes block := by
  obtain ⟨star, given, below⟩ := Option.bind_eq_some_iff.mp here
  rw [starTypes, given]
  exact Table.mem_of_lookup below

theorem BlockForm.lookup_subBlocks (form : BlockForm block) {name : Text}
    (here : role.entity? block = some entry) (named : role.names = [name]) :
    (members "subblocks" block).lookup name = none := by
  obtain ⟨own, -⟩ := List.pairwise_cons.mp form.apart
  rw [Option.eq_none_iff_forall_ne_some]
  intro sub below
  have inside := Table.mem_of_lookup below
  cases role with
  | block | type _ | star => cases named
  | starType _ =>
      obtain rfl := List.singleton_inj.mp named
      exact own (starTypes block) (by simp) _ inside _ (mem_starTypes here) rfl
  | subType _ =>
      obtain rfl := List.singleton_inj.mp named
      exact own (members "subblock_types" block) (by simp) _ inside _ (Table.mem_of_lookup here)
        rfl

theorem Hierarchy.blockAt_names (hierarchy : Hierarchy blocks) {path : List Text} {name : Text}
    (found : Metadata.blockAt blocks path = some block) (here : role.entity? block = some entry)
    (named : role.names = [name]) : Metadata.blockAt blocks (path ++ [name]) = none := by
  obtain ⟨formed, -⟩ := hierarchy.blockAt found
  rw [blockAt_concat found, formed.form.lookup_subBlocks here named]

theorem BlockForm.role_eq (form : BlockForm block) {name : Text}
    (here : role.entity? block = some entry) (there : twin.entity? block = some another)
    (named : role.names = [name]) (alike : twin.names = [name]) : role = twin := by
  have apart : ∀ {own below : Entries} {name : Text},
      (Role.subType name).entity? block = some own →
      (Role.starType name).entity? block = some below → False := by
    intro own below name here there
    obtain ⟨-, later⟩ := List.pairwise_cons.mp form.apart
    obtain ⟨types, -⟩ := List.pairwise_cons.mp later
    exact types (starTypes block) (List.mem_singleton_self _) _ (Table.mem_of_lookup here) _
      (mem_starTypes there) rfl
  cases role with
  | block | type _ | star => cases named
  | starType _ =>
      obtain rfl := List.singleton_inj.mp named
      cases twin with
      | block | type _ | star => cases alike
      | starType _ => rw [List.singleton_inj.mp alike]
      | subType _ =>
          obtain rfl := List.singleton_inj.mp alike
          exact (apart there here).elim
  | subType _ =>
      obtain rfl := List.singleton_inj.mp named
      cases twin with
      | block | type _ | star => cases alike
      | starType _ =>
          obtain rfl := List.singleton_inj.mp alike
          exact (apart here there).elim
      | subType _ => rw [List.singleton_inj.mp alike]

theorem Hierarchy.segments (hierarchy : Hierarchy blocks)
    (here : entityAt blocks place = some entry) :
    place.segments ≠ [] ∧ (∀ segment ∈ place.segments, '/' ∉ segment) ∧
      place.segments.takeWhile (· ∉ marks) = place.path ++ place.role.names := by
  obtain ⟨block, found, role⟩ := Option.bind_eq_some_iff.mp here
  obtain ⟨formed, some, path⟩ := hierarchy.blockAt found
  obtain ⟨names, mark⟩ := formed.form.names_of_entry role
  have split : place.segments = (place.path ++ place.role.names) ++ place.role.mark := by
    rw [Place.segments, Role.segments_eq, List.append_assoc]
  have valid : ∀ segment ∈ place.path ++ place.role.names, IsName segment :=
    List.forall_mem_append.mpr ⟨path, names⟩
  refine ⟨by simp [split, some], ?_, ?_⟩
  · rw [split]
    exact List.forall_mem_append.mpr ⟨fun segment member => (valid segment member).whole, mark⟩
  · have plain : ∀ segment ∈ place.path ++ place.role.names, decide (segment ∉ marks) = true :=
      fun segment member => decide_eq_true fun mark => (valid segment member).unmarked _ mark rfl
    rw [split, List.takeWhile_append_of_pos plain, Role.takeWhile_mark, List.append_nil]

/-- Entities whose keys are the same stand at the same place. -/
theorem Hierarchy.place_eq (hierarchy : Hierarchy blocks)
    (here : entityAt blocks place = some entry) (there : entityAt blocks other = some another)
    (same : place.key = other.key) : place = other := by
  obtain ⟨some, whole, front⟩ := hierarchy.segments here
  obtain ⟨otherSome, otherWhole, otherFront⟩ := hierarchy.segments there
  have segments : place.segments = other.segments := by
    rw [← splitOn_joinWith some whole, ← splitOn_joinWith otherSome otherWhole]
    exact congrArg (splitOn '/') same
  have names : place.path ++ place.role.names = other.path ++ other.role.names := by
    rw [← front, ← otherFront, segments]
  have mark : place.role.mark = other.role.mark := by
    rw [Place.segments, Place.segments, Role.segments_eq, Role.segments_eq, ← List.append_assoc,
      ← List.append_assoc, names] at segments
    exact List.append_cancel_left segments
  obtain ⟨path, role⟩ := place
  obtain ⟨otherPath, otherRole⟩ := other
  obtain ⟨block, found, entered⟩ := Option.bind_eq_some_iff.mp here
  obtain ⟨otherBlock, otherFound, otherEntered⟩ := Option.bind_eq_some_iff.mp there
  dsimp only at names mark found otherFound entered otherEntered
  -- A key with a mark ends its path there.  One without a mark is a list of names, and the last
  -- of them may be that of a sub-block or of a type.
  rcases role.names_cases with none | ⟨⟨name, named⟩, unmarked⟩
  · rcases otherRole.names_cases with otherNone | ⟨⟨name, named⟩, unmarked⟩
    · obtain rfl := Role.eq_of_mark none otherNone mark
      rw [none, List.append_nil, List.append_nil] at names
      rw [names]
    · rw [none, named, List.append_nil] at names
      rw [names, hierarchy.blockAt_names otherFound otherEntered named] at found
      cases found
  · rcases otherRole.names_cases with otherNone | ⟨⟨otherName, otherNamed⟩, -⟩
    · rw [named, otherNone, List.append_nil] at names
      rw [← names, hierarchy.blockAt_names found entered named] at otherFound
      cases otherFound
    · rw [named, otherNamed] at names
      obtain ⟨rfl, last⟩ := List.append_inj' names rfl
      obtain rfl := List.singleton_inj.mp last
      obtain rfl := Option.some.inj (found.symm.trans otherFound)
      obtain ⟨formed, -⟩ := hierarchy.blockAt found
      rw [formed.form.role_eq entered otherEntered named otherNamed]

end Keys

end Metadata

end Schema

end InputDeck
