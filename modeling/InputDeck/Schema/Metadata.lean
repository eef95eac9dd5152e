import InputDeck.Schema.Failure
import InputDeck.Table
import InputDeck.Value.Json

/-!
Supplementary data on blocks, from the second dump.  It comes as a flat table of paths, or as a
hierarchy of blocks that is flattened into one: a block under its path, its types under
`path/<type>/T`, its star under `path/*` and the types of its sub-blocks under `path/T`.
-/

namespace InputDeck

namespace Schema

structure Metadata where
  description : Option Text := none
  file : Option Text := none
deriving DecidableEq, Repr

abbrev MetadataTable := Table Metadata

namespace Metadata

abbrev Entries := List (Value × Value)

/-- The file of an entry: the one registered, or the first one listed. -/
def registeredFile (entry : Entries) : Value :=
  match Value.lookup "register_file".toList entry with
  | some .null | none =>
      match Value.lookup "file_info".toList entry with
      | some (.map ((file, _) :: _)) => file
      | _ => .null
  | some file => file

/-- Reads the metadata of an entry.  A description that is not given, or empty, is left out. -/
def check (entry : Entries) : Checked Metadata :=
  let description := (Value.lookup "description".toList entry).getD .null
  let description := if description.isGiven then description else .null
  Checked.apply
    (Checked.apply (.ok (fun description file => { description, file }))
      (Checked.within (.field "description") (Checked.optional Checked.text description)))
    (Checked.within (.field "register_file")
      (Checked.optional Checked.text (registeredFile entry)))

def add (file path : Text) (entry : Entries) (table : MetadataTable) :
    Except Failure MetadataTable :=
  match check entry with
  | .ok metadata => .ok (table.set path metadata)
  | .error faults => .error (.badMetadata file faults)

def typeTable (name : String) (entry : Entries) : Except Failure Entries :=
  match Value.lookup name.toList entry with
  | some (.map types) => .ok types
  | some value => if value.isGiven then .error (.notTable value.sort) else .ok []
  | none => .ok []

def addTypes (file parent : Text) : Entries → MetadataTable → Except Failure MetadataTable
  | [], table => .ok table
  | (.text name, .map entry) :: rest, table => do
      let table ← add file (parent ++ '/' :: name) entry table
      addTypes file parent rest table
  | _ :: rest, table => addTypes file parent rest table

def addStar (file path : Text) (block : Entries) (table : MetadataTable) :
    Except Failure MetadataTable :=
  match Value.lookup "star".toList block with
  | some (.map star) => do
      let table ← add file (path ++ "/*".toList) star table
      addTypes file path (← typeTable "subblock_types" star) table
  | _ => .ok table

def addBlock (file path : Text) (block : Entries) (table : MetadataTable) :
    Except Failure MetadataTable := do
  let table ← add file path block table
  let table ← addTypes file (path ++ "/<type>".toList) (← typeTable "types" block) table
  let table ← addStar file path block table
  addTypes file path (← typeTable "subblock_types" block) table

def subBlocks (block : Entries) : Entries :=
  match Value.lookup "subblocks".toList block with
  | some (.map blocks) => blocks
  | _ => []

theorem sizeEntries_lookup {key : Text} {entries : Entries} {value : Value}
    (found : Value.lookup key entries = some value) :
    value.size ≤ Value.sizeEntries entries := by
  induction entries with
  | nil => simp [Value.lookup] at found
  | cons entry rest ih =>
      obtain ⟨name, item⟩ := entry
      have later : Value.lookup key rest = some value →
          value.size ≤ Value.sizeEntries ((name, item) :: rest) := by
        intro inRest
        have := ih inRest
        simp only [Value.sizeEntries]
        omega
      by_cases isText : ∃ t, name = .text t
      · obtain ⟨t, rfl⟩ := isText
        simp only [Value.lookup] at found
        split at found
        · obtain rfl := Option.some.inj found
          simp only [Value.sizeEntries]
          omega
        · exact later found
      · rw [Value.lookup.eq_3 _ _ _ (fun t _ h => isText ⟨t, congrArg Prod.fst h⟩)] at found
        exact later found

theorem sizeEntries_subBlocks (block : Entries) :
    Value.sizeEntries (subBlocks block) ≤ Value.sizeEntries block := by
  unfold subBlocks
  split
  · rename_i blocks found
    have := sizeEntries_lookup found
    simp only [Value.size] at this
    omega
  · simp [Value.sizeEntries]

theorem sizeEntries_lt_cons (entry : Value × Value) (rest : Entries) :
    Value.sizeEntries rest < Value.sizeEntries (entry :: rest) := by
  have := entry.2.size_pos
  simp only [Value.sizeEntries]
  omega

/-- Adds blocks below a path, each followed by its sub-blocks. -/
def addBlocks (file parent : Text) : Entries → MetadataTable → Except Failure MetadataTable
  | [], table => .ok table
  | (.text name, .map block) :: rest, table => do
      let path := if parent.isEmpty then name else parent ++ '/' :: name
      let table ← addBlock file path block table
      let table ← addBlocks file path (subBlocks block) table
      addBlocks file parent rest table
  | _ :: rest, table => addBlocks file parent rest table
termination_by blocks => Value.sizeEntries blocks
decreasing_by
  · have := sizeEntries_subBlocks block
    simp only [Value.sizeEntries, Value.size]
    omega
  · simp only [Value.sizeEntries, Value.size]
    omega
  · exact sizeEntries_lt_cons _ _

def addFlat (file : Text) : Entries → MetadataTable → Except Failure MetadataTable
  | [], table => .ok table
  | (.text path, .map entry) :: rest, table => do
      let table ← add file (Text.trimBy (· == '/') path) entry table
      addFlat file rest table
  | _ :: rest, table => addFlat file rest table

def ofValue (file : Text) : Value → Except Failure MetadataTable
  | .map entries =>
      match Value.lookup "blocks".toList entries with
      | some (.map blocks) => addBlocks file [] blocks []
      | _ => addFlat file entries []
  | _ => .error (.notMap file)

end Metadata

end Schema

end InputDeck
