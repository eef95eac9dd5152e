import InputDeck.Route
import InputDeck.Schema.Failure

/-!
Files as a tree seen from one directory in it, and the paths that lead to them.  An absolute path
starts at the root of the tree, another one at the directory.
-/

namespace InputDeck

namespace FilePath

/-- The steps of a path: its segments without the empty ones and those that stay in place. -/
def steps (path : Text) : List Text :=
  (Text.splitOn '/' path).filter (fun segment => segment != [] && segment != ['.'])

/-- The slashes that an absolute path starts with: one, or exactly two. -/
def root (path : Text) : Text :=
  match path with
  | '/' :: '/' :: '/' :: _ => ['/']
  | '/' :: '/' :: _ => ['/', '/']
  | '/' :: _ => ['/']
  | _ => []

def absolute (location : List Text) : Text :=
  '/' :: Text.joinWith ['/'] location

def normalize (path : Text) : Text :=
  match root path ++ Text.joinWith ['/'] (steps path) with
  | [] => ['.']
  | text => text

end FilePath

inductive FileEntry where
  | file (bytes : List UInt8)
  | directory
deriving DecidableEq, Repr

abbrev Location := List Text

def Location.above (location : Location) : List Location :=
  (List.range location.length).map (fun n => location.take n)

structure FileTree where
  /-- The absolute path of the current directory. -/
  root : Text
  entries : List (Location × FileEntry) := []
deriving Repr

namespace FileTree

def current (files : FileTree) : Location :=
  Route.resolve true (Text.splitOn '/' files.root)

/-- What stands at a location.  The current directory and those above it are always there. -/
def entry? (files : FileTree) (location : Location) : Option FileEntry :=
  if location.isPrefixOf files.current then some .directory else files.entries.lookup location

def erase (files : FileTree) (steps : List Text) : FileTree :=
  let location := files.current ++ steps
  { files with
    entries := files.entries.filter (fun (other, _) => !location.isPrefixOf other) }

def ensureDirectory (files : FileTree) (location : Location) : FileTree :=
  match files.entry? location with
  | some _ => files
  | none => { files with entries := files.entries ++ [(location, .directory)] }

def start (files : FileTree) (path : Text) : Location :=
  if path.head? = some '/' then [] else files.current

def insert (files : FileTree) (path : Text) (entry : FileEntry) : FileTree :=
  let location : Location := files.start path ++ FilePath.steps path
  let files := location.above.foldl ensureDirectory files
  match entry with
  | .directory => files.ensureDirectory location
  | .file _ =>
      { files with
        entries := files.entries.filter (fun (other, _) => other != location) ++
          [(location, entry)] }

/-- Takes one step from a location.  The root is above itself. -/
def step (files : FileTree) (location : Location) (segment : Text) : Except FileError Location :=
  match files.entry? location with
  | none => .error .notFound
  | some (.file _) => .error .notDirectory
  | some .directory =>
      if segment = ['.', '.'] then .ok location.dropLast else .ok (location ++ [segment])

def locate (files : FileTree) (path : Text) : Except FileError Location := do
  let location ← (FilePath.steps path).foldlM files.step (files.start path)
  match files.entry? location with
  | some _ => return location
  | none => .error .notFound

/-- The path of a location, below the current directory as that directory is written. -/
def pathOf (files : FileTree) (location : Location) : Text :=
  if !files.current.isEmpty && files.current.isPrefixOf location then
    Text.joinWith ['/'] (files.root :: location.drop files.current.length)
  else
    FilePath.absolute location

def read (files : FileTree) (location : Location) : Except FileError (List UInt8) := do
  let place ← location.foldlM files.step []
  match files.entry? place with
  | some (.file bytes) => return bytes
  | some .directory => .error .isDirectory
  | none => .error .notFound

def unifyLines : Text → Text
  | '\r' :: '\n' :: rest => '\n' :: unifyLines rest
  | '\r' :: rest => '\n' :: unifyLines rest
  | c :: rest => c :: unifyLines rest
  | [] => []

def decode? (bytes : List UInt8) : Option Text :=
  (Text.ofBytes? bytes).map unifyLines

/-- The names in the directory of a path, in order of their code points. -/
def siblings (files : FileTree) (path : Text) : List Text :=
  let folder := FilePath.root path ++ Text.joinWith ['/'] (FilePath.steps path).dropLast
  match files.locate folder with
  | .error _ => []
  | .ok location =>
      match files.entry? location with
      | some .directory =>
          let known := files.current.above ++ files.current :: files.entries.map Prod.fst
          let names := known.filterMap (fun other =>
            if other.length = location.length + 1 ∧ location.isPrefixOf other then other.getLast?
            else none)
          names.mergeSort Text.isAtMost
      | _ => []

end FileTree

end InputDeck
