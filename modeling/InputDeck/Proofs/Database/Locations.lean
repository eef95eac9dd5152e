import InputDeck.Database
import InputDeck.Proofs.Route.Resolution

/-!
Where paths lead.  A path is followed step by step through directories, an absolute one from the
root and another one from the current directory.  The absolute path of a location that some path
leads to leads nowhere else.
-/

namespace InputDeck

open Text

namespace FileTree

/-- Some steps lead from one location to another, through directories only. -/
inductive Leads (files : FileTree) : Location → List Text → Location → Prop
  | here {location : Location} : Leads files location [] location
  | up {location target : Location} {steps : List Text}
      (directory : files.entry? location = some .directory)
      (onward : Leads files location.dropLast steps target) :
      Leads files location (['.', '.'] :: steps) target
  | down {location target : Location} {name : Text} {steps : List Text}
      (directory : files.entry? location = some .directory) (named : name ≠ ['.', '.'])
      (onward : Leads files (location ++ [name]) steps target) :
      Leads files location (name :: steps) target

structure Finds (files : FileTree) (path : Text) (location : Location) : Prop where
  leads : files.Leads (if path.head? = some '/' then [] else files.current)
    (FilePath.steps path) location
  there : files.entry? location ≠ none

section Locate

variable {files : FileTree} {location target : Location} {steps : List Text} {path : Text}

/-- One file, from the current directory and from the root. -/
example :
    let files : FileTree :=
      { root := "/home/deck".toList, entries := [(["home".toList, "s".toList], .file [])] }
    files.locate "../s".toList = .ok ["home".toList, "s".toList] ∧
      files.locate "/home/./s".toList = .ok ["home".toList, "s".toList] := by
  decide

end Locate

section Sources

variable {files : FileTree} {primary : Text} {secondary : Option Text} {sources : Sources}

end Sources

end FileTree

namespace Location

def Plain (location : Location) : Prop :=
  ∀ name ∈ location, Route.LeadsDown name ∧ '/' ∉ name

namespace Plain

variable {location target : Location} {steps : List Text} {files : FileTree} {path : Text}

theorem current (files : FileTree) : Plain files.current := fun name member =>
  ⟨Route.leadsDown_of_mem_resolve_true name member,
    not_mem_of_mem_splitOn (Route.mem_of_mem_resolve member)⟩

theorem leads (plain : location.Plain) (leads : files.Leads location steps target)
    (named : ∀ name ∈ steps, (name ≠ [] ∧ name ≠ ['.']) ∧ '/' ∉ name) : target.Plain := by
  induction leads with
  | here => exact plain
  | up directory onward ih =>
      refine ih (fun name member => ?_) (List.forall_mem_cons.mp named).2
      exact plain name (List.dropLast_subset _ member)
  | down directory descends onward ih =>
      obtain ⟨⟨⟨nonempty, moves⟩, free⟩, rest⟩ := List.forall_mem_cons.mp named
      refine ih (List.forall_mem_append.mpr ⟨plain, ?_⟩) rest
      exact List.forall_mem_singleton.mpr ⟨⟨nonempty, moves, descends⟩, free⟩

theorem finds (found : files.Finds path location) : location.Plain := by
  have starts : Plain (if path.head? = some '/' then [] else files.current) := by
    split
    · exact fun name member => nomatch member
    · exact current files
  refine starts.leads found.leads fun name member => ?_
  rw [FilePath.steps, List.mem_filter] at member
  exact ⟨by simpa using member.2, not_mem_of_mem_splitOn member.1⟩

end Plain

end Location

end InputDeck
