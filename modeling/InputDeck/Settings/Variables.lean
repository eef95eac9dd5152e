import InputDeck.Table

/-!
Files that set variables.  A line is `NAME=value`, perhaps after `export`; a value may be quoted
and then go over several lines, and it may refer to variables as `${NAME}` or
`${NAME:-default}`.  A line of another form is passed over.
-/

namespace InputDeck

/-- Variables by name.  One that is named without a value has none. -/
abbrev Variables := Table (Option Text)

namespace Variables

def isGap (c : Char) : Bool :=
  Text.isBlank c && c != '\n'

def skipGap (text : Text) : Text :=
  text.dropWhile isGap

def nextLine (text : Text) : Text :=
  (text.dropWhile (· != '\n')).drop 1

def skipExport (text : Text) : Text :=
  match Text.dropStart? "export".toList text with
  | some (c :: rest) => if isGap c then skipGap rest else text
  | _ => text

def name? : Text → Option (Text × Text)
  | '\'' :: rest =>
      match rest.takeWhile (· != '\''), rest.dropWhile (· != '\'') with
      | [], _ | _, [] => none
      | name, _ :: rest => some (name, rest)
  | text =>
      let inName := fun c => !Text.isBlank c && c != '=' && c != '#'
      match text.takeWhile inName with
      | [] => none
      | name => some (name, text.dropWhile inName)

/-- The text up to the closing quotation mark, and what follows it.  A backslash belongs together
with the next character of its line. -/
def quoted? (mark : Char) : Text → Option (Text × Text)
  | [] | ['\\'] | '\\' :: '\n' :: _ => none
  | '\\' :: c :: rest => (quoted? mark rest).map (fun (text, rest) => ('\\' :: c :: text, rest))
  | c :: rest =>
      if c = mark then some ([], rest)
      else (quoted? mark rest).map (fun (text, rest) => (c :: text, rest))

def escapes : List (Char × Char) := [
  ('\\', '\\'), ('\'', '\''), ('"', '"'), ('a', '\x07'), ('b', '\x08'), ('f', '\x0c'),
  ('n', '\n'), ('r', '\r'), ('t', '\t'), ('v', '\x0b')]

def plainEscapes : List (Char × Char) :=
  [('\\', '\\'), ('\'', '\'')]

def unescape (escapes : List (Char × Char)) : Text → Text
  | '\\' :: c :: rest =>
      match escapes.lookup c with
      | some meant => meant :: unescape escapes rest
      | none => '\\' :: unescape escapes (c :: rest)
  | c :: rest => c :: unescape escapes rest
  | [] => []

def uncommented (afterBlank : Bool) : Text → Text
  | [] => []
  | c :: rest => if afterBlank && c == '#' then [] else c :: uncommented (Text.isBlank c) rest

def value? (afterBlank : Bool) : Text → Option (Text × Text)
  | '\'' :: rest => (quoted? '\'' rest).map (fun (text, rest) => (unescape plainEscapes text, rest))
  | '"' :: rest => (quoted? '"' rest).map (fun (text, rest) => (unescape escapes text, rest))
  | text =>
      let line := text.takeWhile (· != '\n')
      some (Text.trimEnd (uncommented afterBlank line), text.dropWhile (· != '\n'))

def skipComment (text : Text) : Text :=
  match skipGap text with
  | '#' :: rest => rest.dropWhile (· != '\n')
  | _ => text

def lineEnd? (text : Text) : Option Text :=
  match skipGap text with
  | [] => some []
  | '\n' :: rest => some rest
  | _ => none

/-- What follows a name, up to the end of the line: a value, if there is one.  If the line has
another form, there is only what follows it. -/
def setting (name : Option Text) (text : Text) : Option (Text × Option Text) × Text :=
  let finish := fun (value : Option Text) (text : Text) =>
    let text := skipComment text
    match lineEnd? text with
    | some rest => (name.map (fun name => (name, value)), rest)
    | none => (none, nextLine text)
  match skipGap text with
  | '=' :: rest =>
      let start := skipGap rest
      match value? (start.length < rest.length) start with
      | some (value, rest) => finish (some value) rest
      | none => (none, nextLine start)
  | text => finish none text

def line (text : Text) : Option (Text × Option Text) × Text :=
  match text.dropWhile Text.isBlank with
  | [] => (none, [])
  | text =>
      let text := skipExport text
      match text with
      | '#' :: _ => setting none text
      | _ =>
          match name? text with
          | some (name, rest) => setting (some name) rest
          | none => (none, nextLine text)

def lines (text : Text) : List (Text × Option Text) :=
  let (entry, rest) := line text
  if _shorter : rest.length < text.length then entry.toList ++ lines rest
  else entry.toList
termination_by text.length

def reference? : Text → Option (Text × Text × Nat)
  | '{' :: rest =>
      let inName := fun c => c != '}' && c != ':'
      let name := rest.takeWhile inName
      match rest.dropWhile inName with
      | '}' :: _ => some (name, [], name.length + 2)
      | ':' :: '-' :: rest =>
          let default := rest.takeWhile (· != '}')
          if rest.contains '}' then some (name, default, name.length + default.length + 4)
          else none
      | _ => none
  | _ => none

/-- Replaces references by what `meaning` gives for a name and a default, after `skipped`
characters that are left out. -/
def expand (meaning : Text → Text → Text) : (skipped : Nat) → Text → Text
  | _, [] => []
  | skipped + 1, _ :: rest => expand meaning skipped rest
  | 0, c :: rest =>
      match if c = '$' then reference? rest else none with
      | some (name, default, length) => meaning name default ++ expand meaning length rest
      | none => c :: expand meaning 0 rest

def meaning (known : Variables) (name default : Text) : Text :=
  match known.lookup name with
  | some value => value.getD []
  | none => default

/-- Sets a variable; the value may refer to `environment` and to variables set before. -/
def assign (environment known : Variables) (entry : Text × Option Text) : Variables :=
  known.set entry.1 (entry.2.map (expand (meaning (known ++ environment)) 0))

def read (environment : Variables) (text : Text) : Variables :=
  (lines text).foldl (assign environment) []

/-- The last variable of a name, whose letters may be small or capital. -/
def find? (known : Variables) (name : Text) : Option Text :=
  ((known.filter (fun entry => Text.lowerLatin entry.1 == name)).getLast?).bind
    (fun entry => entry.2)

end Variables

end InputDeck
