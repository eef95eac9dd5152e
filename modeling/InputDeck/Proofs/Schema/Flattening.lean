import InputDeck.Proofs.Schema.Hierarchy
import Mathlib.Data.List.Induction
import Mathlib.Data.List.Nodup

/-!
Flattening a hierarchy of blocks.  Each step sets the rows of the entities that it goes through, so
the table has a row for each entity of the hierarchy, and no others.
-/

namespace InputDeck

open Text

namespace Table

def setAll (rows : List (Text × α)) (table : Table α) : Table α :=
  rows.foldl (fun table row => table.set row.1 row.2) table

theorem setAll_cons (row : Text × α) (rows : List (Text × α)) (table : Table α) :
    setAll (row :: rows) table = setAll rows (table.set row.1 row.2) :=
  rfl

theorem setAll_append (first second : List (Text × α)) (table : Table α) :
    setAll (first ++ second) table = setAll second (setAll first table) :=
  List.foldl_append

theorem nodup_keys_setAll {table : Table α} (distinct : (table.map Prod.fst).Nodup)
    (rows : List (Text × α)) : ((setAll rows table).map Prod.fst).Nodup := by
  induction rows generalizing table with
  | nil => exact distinct
  | cons row rows ih =>
      refine ih ?_
      rw [keys_set]
      split
      · exact distinct
      · next fresh => exact List.nodup_append_comm.mp (List.nodup_cons.mpr ⟨fresh, distinct⟩)

theorem mem_of_mem_setAll {rows : List (Text × α)} {entry : Text × α} {table : Table α}
    (member : entry ∈ setAll rows table) : entry ∈ rows ∨ entry ∈ table := by
  induction rows generalizing table with
  | nil => exact .inr member
  | cons row rows ih =>
      rcases ih member with later | earlier
      · exact .inl (List.mem_cons_of_mem row later)
      · rcases mem_of_mem_set earlier with rfl | there
        · exact .inl List.mem_cons_self
        · exact .inr there

theorem lookup_setAll {rows : List (Text × α)} {name : Text} {value : α}
    (member : (name, value) ∈ rows) (agree : ∀ other, (name, other) ∈ rows → other = value)
    (table : Table α) : List.lookup name (setAll rows table) = some value := by
  induction rows using List.reverseRecOn with
  | nil => cases member
  | append_singleton rows row ih =>
      rw [setAll_append]
      change List.lookup name ((setAll rows table).set row.1 row.2) = some value
      by_cases last : row.1 = name
      · subst last
        rw [lookup_set_self, agree row.2 (List.mem_append_right rows (List.mem_singleton_self row))]
      · rw [lookup_set_of_ne (Ne.symm last)]
        refine ih ?_ fun other earlier => agree other (List.mem_append_left _ earlier)
        rcases List.mem_append.mp member with earlier | here
        · exact earlier
        · exact absurd (congrArg Prod.fst (List.mem_singleton.mp here)).symm last

end Table

namespace Schema

namespace Metadata

/-! Reading entries. -/

section Reading

variable {member : String} {entry : Entries}

theorem checked_description (text : isText (valueAt member entry) = true) :
    Checked.optional Checked.text
      (if (valueAt member entry).isGiven then valueAt member entry else .null) =
        .ok ((textAt member entry).filter (fun text => !text.isEmpty)) := by
  rw [textAt]
  cases given : valueAt member entry with
  | null => rfl
  | text t => cases t <;> rfl
  | _ =>
      rw [given] at text
      cases text

theorem registeredFile_of_given (given : valueAt "register_file" entry ≠ .null) :
    registeredFile entry = valueAt "register_file" entry := by
  unfold valueAt at given ⊢
  unfold registeredFile
  cases found : Value.lookup "register_file".toList entry with
  | none => exact absurd (by rw [found]; rfl) given
  | some value =>
      cases value with
      | null => exact absurd (by rw [found]; rfl) given
      | _ => rfl

/-- The first file listed in an entry, as it is given. -/
def listedFile (entry : Entries) : Value :=
  ((mapAt "file_info" entry).bind List.head?).elim .null Prod.fst

theorem registeredFile_of_null (none : valueAt "register_file" entry = .null) :
    registeredFile entry = listedFile entry := by
  have absent := Option.getD_eq_iff.mp none
  unfold registeredFile listedFile mapAt valueAt
  rcases absent with absent | ⟨absent, -⟩
  all_goals
    rw [absent]
    cases Value.lookup "file_info".toList entry with
    | none => rfl
    | some value =>
        cases value with
        | map files => cases files <;> rfl
        | _ => rfl

theorem checked_listedFile (described : Described entry) :
    Checked.optional Checked.text (listedFile entry) = .ok (firstFile entry) := by
  unfold listedFile firstFile
  cases listed : mapAt "file_info" entry with
  | none => rfl
  | some files =>
      cases files with
      | nil => rfl
      | cons file rest =>
          obtain ⟨key, information⟩ := file
          have text : isKey key = true := described.listed _ listed _ List.mem_cons_self
          cases key with
          | text name => rfl
          | _ => cases text

theorem checked_file (described : Described entry) :
    Checked.optional Checked.text (registeredFile entry) =
      .ok ((textAt "register_file" entry).or (firstFile entry)) := by
  have text := described.file
  cases given : valueAt "register_file" entry with
  | null =>
      rw [registeredFile_of_null given, checked_listedFile described, textAt, given, Option.none_or]
  | text file =>
      rw [registeredFile_of_given (by rw [given]; nofun), textAt, given]
      rfl
  | _ =>
      rw [given] at text
      cases text

theorem check_of_described (described : Described entry) : check entry = .ok (stated entry) := by
  have description := checked_description described.description
  have file := checked_file described
  unfold valueAt at description
  simp only [check, description, file]
  rfl

theorem add_of_described (described : Described entry) (file path : Text)
    (table : MetadataTable) : add file path entry table = .ok (table.set path (stated entry)) := by
  rw [add, check_of_described described]

theorem typeTable_of_isTable (formed : IsTable member entry) :
    typeTable member entry = .ok ((mapAt member entry).getD []) := by
  have given := formed.given
  unfold mapAt
  unfold valueAt at given ⊢
  unfold typeTable
  cases found : Value.lookup member.toList entry with
  | none => rfl
  | some value =>
      rw [found] at given
      cases value with
      | null | map _ => rfl
      | _ => cases given

theorem subBlocks_eq (block : Entries) : subBlocks block = (mapAt "subblocks" block).getD [] := by
  unfold subBlocks
  cases given : mapAt "subblocks" block with
  | some blocks => rw [mapAt_eq_some_iff.mp given]; rfl
  | none =>
      split
      · next blocks found => rw [mapAt_eq_some_iff.mpr found] at given; cases given
      · rfl

end Reading

/-! The rows of one block. -/

def typesAs (role : Text → Role) (types : List (Text × Entries)) : List (Role × Entries) :=
  types.map fun type => (role type.1, type.2)

def starRoles (block : Entries) : List (Role × Entries) :=
  match mapAt "star" block with
  | some star => (.star, star) :: typesAs .starType (members "subblock_types" star)
  | none => []

def roles (block : Entries) : List (Role × Entries) :=
  (.block, block) :: (typesAs .type (members "types" block) ++ starRoles block ++
    typesAs .subType (members "subblock_types" block))

def row (path : List Text) (entity : Role × Entries) : Text × Metadata :=
  ((Place.mk path entity.1).key, stated entity.2)

section Block

variable {block : Entries} {path : List Text}

theorem Place.key_eq (some : path ≠ []) (role : Role) :
    (Place.mk path role).key = joinWith ['/'] path ++
      match role with
      | .block => []
      | .type name => "/<type>/".toList ++ name
      | .star => "/*".toList
      | .starType name | .subType name => '/' :: name := by
  cases role with
  | block => simp [Place.key, Place.segments, Role.segments]
  | _ =>
      rw [Place.key, Place.segments, Role.segments, joinWith_append some (List.cons_ne_nil _ _)]
      rfl

theorem mem_typesAs {role : Role} {kind : Text → Role} {types : List (Text × Entries)}
    {entry : Entries} :
    (role, entry) ∈ typesAs kind types ↔ ∃ name, (name, entry) ∈ types ∧ kind name = role := by
  simp [typesAs]

theorem mem_starRoles_iff (form : BlockForm block) {role : Role} {entry : Entries} :
    (role, entry) ∈ starRoles block ↔
      (role = .star ∨ ∃ name, role = .starType name) ∧ role.entity? block = some entry := by
  unfold starRoles
  cases given : mapAt "star" block with
  | none => cases role <;> simp [Role.entity?, given]
  | some star =>
      cases role with
      | star => simp [mem_typesAs, Role.entity?, given, eq_comm]
      | starType name =>
          have distinct := (form.star star given).2.proper.distinct
          simp [mem_typesAs, Role.entity?, given, Table.lookup_eq_some_iff_mem distinct]
      | _ => simp [mem_typesAs]

theorem mem_roles_iff (form : BlockForm block) (role : Role) (entry : Entries) :
    (role, entry) ∈ roles block ↔ role.entity? block = some entry := by
  cases role with
  | block => simp [roles, mem_typesAs, mem_starRoles_iff form, Role.entity?, eq_comm]
  | type name =>
      simp [roles, mem_typesAs, mem_starRoles_iff form, Role.entity?,
        Table.lookup_eq_some_iff_mem form.types.proper.distinct]
  | star => simp [roles, mem_typesAs, mem_starRoles_iff form]
  | starType name => simp [roles, mem_typesAs, mem_starRoles_iff form]
  | subType name =>
      simp [roles, mem_typesAs, mem_starRoles_iff form, Role.entity?,
        Table.lookup_eq_some_iff_mem form.subTypes.proper.distinct]

theorem addTypes_of_described {types : Entries} (described : ∀ type ∈ named types, Described type.2)
    (file parent : Text) (table : MetadataTable) :
    addTypes file parent types table = .ok (table.setAll
      ((named types).map fun type => (parent ++ '/' :: type.1, stated type.2))) := by
  fun_induction named types generalizing table with
  | case1 => rfl
  | case2 name fields rest ih =>
      obtain ⟨here, later⟩ := List.forall_mem_cons.mp described
      rw [addTypes, add_of_described here]
      exact ih later _
  | case3 entry rest other ih =>
      rw [addTypes]
      · exact ih described table
      · exact other

theorem addTypes_of_isTable {member : String} {entry : Entries} (formed : IsTable member entry)
    {kind : Text → Role} {parent : Text}
    (keys : ∀ name, (Place.mk path (kind name)).key = parent ++ '/' :: name) (file : Text)
    (table : MetadataTable) :
    addTypes file parent ((mapAt member entry).getD []) table =
      .ok (table.setAll ((typesAs kind (members member entry)).map (row path))) := by
  have rows : (typesAs kind (members member entry)).map (row path) =
      (members member entry).map fun type => (parent ++ '/' :: type.1, stated type.2) := by
    simp [typesAs, row, keys]
  rw [rows]
  exact addTypes_of_described formed.proper.described file parent table

theorem addStar_of_form (form : BlockForm block) (some : path ≠ []) (file : Text)
    (table : MetadataTable) :
    addStar file (joinWith ['/'] path) block table =
      .ok (table.setAll ((starRoles block).map (row path))) := by
  cases given : mapAt "star" block with
  | none =>
      rw [starRoles, given, addStar]
      split
      · next star found => rw [mapAt_eq_some_iff.mpr found] at given; cases given
      · rfl
  | some star =>
      have found := mapAt_eq_some_iff.mp given
      obtain ⟨described, types⟩ := form.star star given
      have key : (Place.mk path .star).key = joinWith ['/'] path ++ "/*".toList :=
        Place.key_eq some .star
      rw [addStar, found, starRoles, given]
      dsimp only
      rw [add_of_described described, typeTable_of_isTable types, ← key]
      exact addTypes_of_isTable types (fun name => Place.key_eq some (.starType name)) file _

theorem addBlock_of_form (form : BlockForm block) (described : Described block)
    (some : path ≠ []) (file : Text) (table : MetadataTable) :
    addBlock file (joinWith ['/'] path) block table =
      .ok (table.setAll ((roles block).map (row path))) := by
  have key : (Place.mk path .block).key = joinWith ['/'] path := by
    rw [Place.key_eq some, List.append_nil]
  have types (table : MetadataTable) :
      addTypes file (joinWith ['/'] path ++ "/<type>".toList) ((mapAt "types" block).getD [])
        table = .ok (table.setAll ((typesAs .type (members "types" block)).map (row path))) :=
    addTypes_of_isTable form.types (fun name => by rw [Place.key_eq some]; simp) file table
  have subTypes := addTypes_of_isTable form.subTypes
    (fun name => Place.key_eq some (.subType name)) file
  simp only [addBlock, add_of_described described, typeTable_of_isTable form.types, types,
    addStar_of_form form some, typeTable_of_isTable form.subTypes, subTypes, bind, Except.bind]
  simp only [roles, List.map_cons, List.map_append, Table.setAll_cons, Table.setAll_append, row,
    key]

end Block

/-! The rows of a hierarchy. -/

section Hierarchy

variable {block blocks entry rest : Entries} {path : List Text} {role : Role} {name : Text}

theorem named_subBlocks (block : Entries) :
    named (subBlocks block) = members "subblocks" block := by
  rw [subBlocks_eq, members]

theorem entityAt_below_iff : (descend block path).bind role.entity? = some entry ↔
    (path = [] ∧ role.entity? block = some entry) ∨
      entityAt (subBlocks block) ⟨path, role⟩ = some entry := by
  cases path with
  | nil => simp [descend, entityAt, blockAt]
  | cons first path => simp [descend, entityAt, blockAt, named_subBlocks]

theorem entityAt_here : entityAt ((.text name, .map block) :: rest) ⟨name :: path, role⟩ =
    (descend block path).bind role.entity? := by
  simp [entityAt, blockAt, named]

theorem entityAt_later {first : Text} (differs : first ≠ name) :
    entityAt ((.text name, .map block) :: rest) ⟨first :: path, role⟩ =
      entityAt rest ⟨first :: path, role⟩ := by
  simp [entityAt, blockAt, named, List.lookup_cons, beq_false_of_ne differs]

theorem entityAt_of_fresh (fresh : name ∉ (named rest).map Prod.fst) :
    entityAt rest ⟨name :: path, role⟩ = none := by
  have absent : (named rest).lookup name = none :=
    Option.eq_none_iff_forall_ne_some.mpr fun _ found =>
      fresh (List.mem_map_of_mem (Table.mem_of_lookup found))
  simp [entityAt, blockAt, absent]

theorem entityAt_cons_iff (fresh : name ∉ (named rest).map Prod.fst) :
    entityAt ((.text name, .map block) :: rest) ⟨path, role⟩ = some entry ↔
      (path = [name] ∧ role.entity? block = some entry) ∨
      (∃ below, path = name :: below ∧
        entityAt (subBlocks block) ⟨below, role⟩ = some entry) ∨
      entityAt rest ⟨path, role⟩ = some entry := by
  cases path with
  | nil => simp [entityAt, blockAt]
  | cons first path =>
      by_cases same : first = name
      · subst same
        rw [entityAt_here, entityAt_below_iff, entityAt_of_fresh fresh]
        simp
      · rw [entityAt_later same]
        simp [same]

/-- Rows are those of the entities of blocks below a path. -/
def RowsOf (path : List Text) (blocks : Entries) (rows : List (Text × Metadata)) : Prop :=
  ∀ item, item ∈ rows ↔ ∃ below role entry, entityAt blocks ⟨below, role⟩ = some entry ∧
    row (path ++ below) (role, entry) = item

def Adds (file : Text) (blocks : Entries) : Prop :=
  ∀ path, (∀ name ∈ path, IsName name) → ∀ table, ∃ rows, RowsOf path blocks rows ∧
    addBlocks file (joinWith ['/'] path) blocks table = .ok (table.setAll rows)

theorem RowsOf.nil (path : List Text) : RowsOf path [] [] := by
  intro item
  refine ⟨nofun, ?_⟩
  rintro ⟨below, role, entry, here, -⟩
  cases below <;> cases here

theorem RowsOf.cons (form : BlockForm block) (fresh : name ∉ (named rest).map Prod.fst)
    {sub later : List (Text × Metadata)} (below : RowsOf (path ++ [name]) (subBlocks block) sub)
    (others : RowsOf path rest later) :
    RowsOf path ((.text name, .map block) :: rest)
      ((roles block).map (row (path ++ [name])) ++ (sub ++ later)) := by
  have deeper (more : List Text) : path ++ name :: more = path ++ [name] ++ more := by simp
  intro item
  constructor
  · intro member
    rcases List.mem_append.mp member with own | member
    · obtain ⟨⟨role, entry⟩, inside, rfl⟩ := List.mem_map.mp own
      have entered := (mem_roles_iff form role entry).mp inside
      exact ⟨[name], role, entry, (entityAt_cons_iff fresh).mpr (.inl ⟨rfl, entered⟩), rfl⟩
    · rcases List.mem_append.mp member with inSub | inOthers
      · obtain ⟨more, role, entry, here, rfl⟩ := (below item).mp inSub
        exact ⟨name :: more, role, entry,
          (entityAt_cons_iff fresh).mpr (.inr (.inl ⟨more, rfl, here⟩)), by rw [deeper]⟩
      · obtain ⟨more, role, entry, here, rfl⟩ := (others item).mp inOthers
        exact ⟨more, role, entry, (entityAt_cons_iff fresh).mpr (.inr (.inr here)), rfl⟩
  · rintro ⟨more, role, entry, here, rfl⟩
    rcases (entityAt_cons_iff fresh).mp here with ⟨rfl, entered⟩ | ⟨more, rfl, inSub⟩ | inOthers
    · exact List.mem_append_left _
        (List.mem_map_of_mem ((mem_roles_iff form role entry).mpr entered))
    · have listed := (below _).mpr ⟨more, role, entry, inSub, rfl⟩
      rw [← deeper] at listed
      exact List.mem_append_right _ (List.mem_append_left _ listed)
    · exact List.mem_append_right _
        (List.mem_append_right _ ((others _).mpr ⟨more, role, entry, inOthers, rfl⟩))

theorem key_concat (valid : ∀ name ∈ path, IsName name) (name : Text) :
    (if (joinWith ['/'] path).isEmpty then name else joinWith ['/'] path ++ '/' :: name) =
      joinWith ['/'] (path ++ [name]) := by
  cases path with
  | nil => rfl
  | cons first path =>
      have given := (valid first List.mem_cons_self).nonempty
      rw [joinWith_append (List.cons_ne_nil first path) (List.cons_ne_nil name []), joinWith_cons]
      simp [given, joinWith]

theorem Proper.of_cons {entries : List (Text × Entries)}
    (proper : Proper ((name, block) :: entries)) :
    IsName name ∧ Described block ∧ name ∉ entries.map Prod.fst ∧ Proper entries := by
  obtain ⟨fresh, distinct⟩ := List.nodup_cons.mp proper.distinct
  obtain ⟨valid, names⟩ := List.forall_mem_cons.mp proper.name
  obtain ⟨described, later⟩ := List.forall_mem_cons.mp proper.described
  exact ⟨valid, described, fresh, distinct, names, later⟩

theorem adds_of_subBlocks {file : Text} (proper : Proper (named blocks))
    (forms : ∀ block ∈ named blocks, BlockForm block.2)
    (below : ∀ block ∈ named blocks, Adds file (subBlocks block.2)) : Adds file blocks := by
  fun_induction named blocks with
  | case1 =>
      intro path valid table
      exact ⟨[], .nil path, by rw [addBlocks]; rfl⟩
  | case2 name block rest ih =>
      intro path valid table
      obtain ⟨form, formsLater⟩ := List.forall_mem_cons.mp forms
      obtain ⟨addsBelow, addsLater⟩ := List.forall_mem_cons.mp below
      obtain ⟨nameValid, described, fresh, properLater⟩ := proper.of_cons
      have validBelow : ∀ segment ∈ path ++ [name], IsName segment :=
        List.forall_mem_append.mpr ⟨valid, List.forall_mem_singleton.mpr nameValid⟩
      have own := addBlock_of_form form described
        (List.append_ne_nil_of_right_ne_nil path (List.cons_ne_nil name [])) file table
      obtain ⟨sub, listedBelow, addedBelow⟩ := addsBelow _ validBelow
        (table.setAll ((roles block).map (row (path ++ [name]))))
      obtain ⟨later, listedLater, addedLater⟩ := ih properLater formsLater addsLater path valid
        ((table.setAll ((roles block).map (row (path ++ [name])))).setAll sub)
      refine ⟨_, .cons form fresh listedBelow listedLater, ?_⟩
      simp only [addBlocks, key_concat valid name, own, addedBelow, addedLater, bind, Except.bind,
        Table.setAll_append]
  | case3 entry rest other ih =>
      intro path valid table
      obtain ⟨rows, listed, added⟩ := ih proper forms below path valid table
      have skipped : named (entry :: rest) = named rest := named.eq_3 entry rest other
      refine ⟨rows, ?_, by rw [addBlocks, added]; exact other⟩
      simp only [RowsOf, entityAt, blockAt, skipped] at listed ⊢
      exact listed

theorem WellFormed.adds (formed : WellFormed block) (file : Text) :
    Adds file (subBlocks block) := by
  induction formed with
  | intro form below ih =>
      apply adds_of_subBlocks
      · rw [named_subBlocks]
        exact form.subBlocks.proper
      · rw [named_subBlocks]
        exact fun sub member => (below sub member).form
      · rw [named_subBlocks]
        exact ih

theorem Hierarchy.adds (hierarchy : Hierarchy blocks) (file : Text) : Adds file blocks :=
  adds_of_subBlocks hierarchy.proper (fun block member => (hierarchy.formed block member).form)
    fun block member => (hierarchy.formed block member).adds file

end Hierarchy

/-- Flattening a hierarchy gives a table with one row for each of its blocks, types, stars and types
of sub-blocks: the entity of a key is the only one with that key, and the row has its metadata. -/
theorem flattened_entities (file : Text) {dump blocks : Entries}
    (given : mapAt "blocks" dump = some blocks) (hierarchy : Hierarchy blocks) :
    ∃ table, ofValue file (.map dump) = .ok table ∧ (table.map Prod.fst).Nodup ∧
      (∀ item, item ∈ table ↔
        ∃ place entry, entityAt blocks place = some entry ∧ (place.key, stated entry) = item) ∧
      ∀ place other entry another, entityAt blocks place = some entry →
        entityAt blocks other = some another → place.key = other.key → place = other := by
  obtain ⟨rows, listed, added⟩ := hierarchy.adds file [] nofun []
  refine ⟨Table.setAll rows [], ?_, Table.nodup_keys_setAll (by simp) rows, fun item => ?_,
    fun place other entry another here there => hierarchy.place_eq here there⟩
  · rw [ofValue, mapAt_eq_some_iff.mp given]
    exact added
  constructor
  · intro member
    rcases Table.mem_of_mem_setAll member with inRows | none
    · obtain ⟨path, role, entry, here, rfl⟩ := (listed item).mp inRows
      exact ⟨⟨path, role⟩, entry, here, rfl⟩
    · cases none
  · rintro ⟨place, entry, here, rfl⟩
    have inRows := (listed _).mpr ⟨place.path, place.role, entry, here, rfl⟩
    refine Table.mem_of_lookup (Table.lookup_setAll inRows (fun metadata alike => ?_) [])
    obtain ⟨path, role, another, there, same⟩ := (listed _).mp alike
    obtain ⟨key, rfl⟩ := Prod.mk.inj same
    obtain rfl := hierarchy.place_eq there here key
    rw [Option.some.inj (there.symm.trans here)]

section Sample

def sampleEntry (description : String) : Entries :=
  [(.text "description".toList, .text description.toList)]

/-- A block with an entity of each role, one of them with a file that is only listed. -/
def sampleBlock : Entries := [
  (.text "description".toList, .text []),
  (.text "types".toList, .map [(.text "B".toList, .map (sampleEntry "a type"))]),
  (.text "star".toList, .map [
    (.text "subblock_types".toList, .map [
      (.text "S".toList, .map (sampleEntry "below the star"))])]),
  (.text "subblock_types".toList, .map [
    (.text "U".toList, .map [
      (.text "file_info".toList, .map [(.text "U.C".toList, .int 12)])])]),
  (.text "subblocks".toList, .map [(.text "B".toList, .map (sampleEntry "a sub-block"))])]

def sampleBlocks : Entries := [
  (.text "A".toList, .map sampleBlock),
  (.text "B".toList, .map (sampleEntry "another block"))]

theorem sampleBlocks_flattened :
    Hierarchy sampleBlocks ∧
      ∃ table, ofValue [] (.map [(.text "blocks".toList, .map sampleBlocks)]) = .ok table ∧
        (table.map Prod.fst).Nodup ∧
        ("A".toList, ⟨none, none⟩) ∈ table ∧
        ("A/<type>/B".toList, ⟨some "a type".toList, none⟩) ∈ table ∧
        ("A/*".toList, ⟨none, none⟩) ∈ table ∧
        ("A/S".toList, ⟨some "below the star".toList, none⟩) ∈ table ∧
        ("A/U".toList, ⟨none, some "U.C".toList⟩) ∈ table ∧
        ("A/B".toList, ⟨some "a sub-block".toList, none⟩) ∈ table ∧
        ("B".toList, ⟨some "another block".toList, none⟩) ∈ table := by
  have sub : WellFormed (sampleEntry "a sub-block") := .intro (by decide +kernel) nofun
  have second : WellFormed (sampleEntry "another block") := .intro (by decide +kernel) nofun
  have first : WellFormed sampleBlock :=
    .intro (by decide +kernel) (List.forall_mem_singleton.mpr sub)
  have hierarchy : Hierarchy sampleBlocks :=
    ⟨by decide +kernel, List.forall_mem_cons.mpr ⟨first, List.forall_mem_singleton.mpr second⟩⟩
  have given : mapAt "blocks" [(.text "blocks".toList, .map sampleBlocks)] = some sampleBlocks :=
    rfl
  obtain ⟨table, flattened, distinct, contents, -⟩ := flattened_entities [] given hierarchy
  have listed (path : List Text) (role : Role) {entry : Entries}
      (here : entityAt sampleBlocks ⟨path, role⟩ = some entry) :
      ((Place.mk path role).key, stated entry) ∈ table :=
    (contents _).mpr ⟨⟨path, role⟩, entry, here, rfl⟩
  exact ⟨hierarchy, table, flattened, distinct, listed ["A".toList] .block rfl,
    listed ["A".toList] (.type "B".toList) rfl, listed ["A".toList] .star rfl,
    listed ["A".toList] (.starType "S".toList) rfl, listed ["A".toList] (.subType "U".toList) rfl,
    listed ["A".toList, "B".toList] .block rfl, listed ["B".toList] .block rfl⟩

end Sample

end Metadata

end Schema

end InputDeck
