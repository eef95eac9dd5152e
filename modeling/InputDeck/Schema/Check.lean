import InputDeck.Schema.Node
import InputDeck.Validation
import InputDeck.Value.Display

/-!
Reading schema blocks from data.  Descriptions, defaults and options may be any value and are
turned into text; names have to be texts.
-/

namespace InputDeck

namespace Schema

def saysYes : Value → Bool
  | .text t =>
      ["yes", "true", "1"].any (fun word => word.toList == Text.lowerLatin (Text.trim t))
  | value => value.isGiven

def shown (value : Value) : Checked Text :=
  if value.isWritable then .ok value.display else Checked.fault .inconsistent

/-- A value as text, with one and zero for the truth values. -/
def setting : Value → Checked (Option Text)
  | .null => .ok none
  | .bool flag => .ok (some (if flag then ['1'] else ['0']))
  | value => (shown value).map some

def remark : Value → Checked Text
  | .null => .ok []
  | value => shown value

def either (first second : String) (entries : List (Value × Value)) : String :=
  if (Value.lookup first.toList entries).isSome then first else second

def shownFields : List Text :=
  ["default", "cpp_type", "structural_type", "description", "options"].map String.toList

def Param.check (value : Value) : Checked Param :=
  match value.entries? with
  | none => Checked.fault .notMap
  | some entries =>
      let typeField := either "cpp_type" "structural_type" entries
      let make := fun name required default type group description options =>
        { name, required, default, type, group, description, options }
      let checked := Checked.required "name" Checked.text entries
      let checked := Checked.apply (.ok make) checked
      let checked := Checked.apply checked
        (Checked.defaulted "required" false (fun value => .ok (saysYes value)) entries)
      let checked := Checked.apply checked (Checked.defaulted "default" none setting entries)
      let checked := Checked.apply checked (Checked.defaulted typeField [] remark entries)
      let checked := Checked.apply checked
        (Checked.defaulted "group_name" none (Checked.optional Checked.text) entries)
      let checked := Checked.apply checked (Checked.defaulted "description" [] remark entries)
      Checked.apply checked (Checked.defaulted "options" none setting entries)

namespace Node

def checkEntries (entries : List (Value × Value))
    (children : Checked (Option (List Node))) : Checked Node :=
  let make := fun name description parameters (children : Option (List Node)) file => {
    name,
    description,
    parameters := Option.getD parameters [],
    holdsBlocks := children.isSome,
    children := children.getD [],
    file }
  let fileField := either "file" "source_file" entries
  let checked := Checked.apply (.ok make) (Checked.required "name" Checked.text entries)
  let checked := Checked.apply checked (Checked.defaulted "description" [] remark entries)
  let checked := Checked.apply checked
    (Checked.defaulted "parameters" none (Checked.optional (Checked.list Param.check)) entries)
  let checked := Checked.apply checked (Checked.within (.field "subblocks") children)
  Checked.apply checked
    (Checked.defaulted fileField none (Checked.optional Checked.text) entries)

def levelLimit : Nat := 254

mutual

def checkWithin (levels : Nat) : Value → Checked Node
  | .map entries | .ordered entries =>
      match levels with
      | 0 => Checked.fault .tooDeep
      | below + 1 => checkEntries entries (checkChildren below entries)
  | _ => if levels = 0 then Checked.fault .tooDeep else Checked.fault .notMap

def checkChildren (levels : Nat) : List (Value × Value) → Checked (Option (List Node))
  | [] => .ok none
  | (.text name, value) :: rest =>
      if name = "subblocks".toList then checkList levels value else checkChildren levels rest
  | _ :: rest => checkChildren levels rest

def checkList (levels : Nat) : Value → Checked (Option (List Node))
  | .null => .ok none
  | .list items | .tuple items | .set items => (checkItems levels 0 items).map some
  | _ => Checked.fault .notList

/-- Reads blocks, the first of which has the given position. -/
def checkItems (levels : Nat) : Nat → List Value → Checked (List Node)
  | _, [] => .ok []
  | position, item :: rest =>
      let first := Checked.within (.index position) (checkWithin levels item)
      Checked.apply (Checked.apply (.ok List.cons) first) (checkItems levels (position + 1) rest)

end

def check (value : Value) : Checked Node :=
  checkWithin levelLimit value

def checkAll : List Value → Checked (List Node)
  | [] => .ok []
  | item :: rest => do
      let node ← check item
      return node :: (← checkAll rest)

end Node

end Schema

end InputDeck
