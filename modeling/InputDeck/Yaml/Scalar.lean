import InputDeck.Yaml.Cursor
import InputDeck.Yaml.Error

/-!
The text of YAML scalars: plain, quoted, literal and folded.  A single line break between two
lines of a plain, quoted or folded scalar is read as a space.
-/

namespace InputDeck

namespace Yaml

def together (pieces : List Text) : Text :=
  pieces.reverse.flatten

/-- What the breaks between two lines are read as: a space for a single line feed, otherwise all
but the first. -/
def foldBreaks (first : Char) (more : Text) : Text :=
  if first != '\n' then first :: more
  else if more.isEmpty then [' ']
  else more

/-- Reads the white space and line breaks inside a plain scalar.  There is none before a document
mark. -/
def plainBreaks : Nat → Text → Cursor → Option (Text × Cursor)
  | 0, found, cursor => some (found, cursor)
  | fuel + 1, found, cursor =>
      if cursor.next == ' ' then
        plainBreaks fuel found cursor.step
      else
        match cursor.lineBreak? with
        | some (c, after) =>
            if after.atDocumentMark then none else plainBreaks fuel (found ++ [c]) after
        | none => some (found, cursor)

structure Gap where
  text : Text
  cursor : Cursor
  broken : Bool
  continues : Bool

def plainGap (fuel : Nat) (cursor : Cursor) : Gap :=
  let (spaces, after) := cursor.span (· == ' ')
  if endsLine after.next then
    match after.lineBreak? with
    | none => ⟨[], after, true, false⟩
    | some (first, after) =>
        if after.atDocumentMark then
          ⟨[], after, true, false⟩
        else
          match plainBreaks fuel [] after with
          | none => ⟨[], after, true, false⟩
          | some (more, after) => ⟨foldBreaks first more, after, true, true⟩
  else
    ⟨spaces, after, false, !spaces.isEmpty⟩

inductive Context where
  | block
  | flow
  /-- In a flow collection where a question mark always marks a key. -/
  | strictFlow
deriving DecidableEq, Repr

def endsPlain (context : Context) (c next : Char) : Bool :=
  if c == ':' then
    endsWord next
  else
    endsWord c ||
      match context with
      | .block => false
      | .flow => ",[]\x7b\x7d".toList.contains c
      | .strictFlow => ",[]\x7b\x7d?".toList.contains c

def plainLength (context : Context) : Text → Nat
  | [] => 0
  | c :: rest =>
      if endsPlain context c (rest.headD '\x00') then 0 else plainLength context rest + 1

/-- A plain scalar, the place after it, and whether a line ended after its last word. -/
def readPlain (context : Context) (indent : Int) :
    Nat → List Text → Text → Bool → Cursor → Text × Bool × Cursor
  | 0, pieces, _, broken, cursor => (together pieces, broken, cursor)
  | fuel + 1, pieces, gap, broken, cursor =>
      let length := if cursor.next == '#' then 0 else plainLength context cursor.rest
      if length = 0 then
        (together pieces, broken, cursor)
      else
        let pieces := cursor.rest.take length :: gap :: pieces
        let found := plainGap fuel (cursor.skip length)
        if !found.continues || found.cursor.next == '#' ||
            (context == .block && found.cursor.column < indent) then
          (together pieces, found.broken, found.cursor)
        else
          readPlain context indent fuel pieces found.text found.broken found.cursor

def quotedBreaks : Nat → Cursor → Except Error (Text × Cursor)
  | 0, _ => .error .malformed
  | fuel + 1, cursor =>
      if cursor.atDocumentMark then
        .error .malformed
      else
        let cursor := cursor.skipGap
        match cursor.lineBreak? with
        | some (c, after) => do
            let (more, after) ← quotedBreaks fuel after
            return (c :: more, after)
        | none => .ok ([], cursor)

def quotedGap (fuel : Nat) (cursor : Cursor) : Except Error (Text × Cursor) :=
  let (blanks, after) := cursor.span isGap
  if after.atEnd then
    .error .malformed
  else
    match after.lineBreak? with
    | some (first, after) => do
        let (more, after) ← quotedBreaks fuel after
        return (foldBreaks first more, after)
    | none => .ok (blanks, after)

def escape? : Char → Option Char
  | '0' => some '\x00'
  | 'a' => some '\x07'
  | 'b' => some '\x08'
  | 't' | '\t' => some '\t'
  | 'n' => some '\n'
  | 'v' => some '\x0b'
  | 'f' => some '\x0c'
  | 'r' => some '\r'
  | 'e' => some '\x1b'
  | ' ' => some ' '
  | '"' => some '"'
  | '/' => some '/'
  | '\\' => some '\\'
  | 'N' => some '\x85'
  | '_' => some '\u00a0'
  | 'L' => some '\u2028'
  | 'P' => some '\u2029'
  | _ => none

def codeLength? : Char → Option Nat
  | 'x' => some 2
  | 'u' => some 4
  | 'U' => some 8
  | _ => none

def character (code : Nat) : Except Error Char :=
  if 0x80000000 ≤ code then .error .codeTooLarge
  else if 0x110000 ≤ code then .error .noCharacter
  else .ok (Text.charOfCode code)

def readEscape (fuel : Nat) (cursor : Cursor) : Except Error (Text × Cursor) :=
  match escape? cursor.next with
  | some c => if cursor.atEnd then .error .malformed else .ok ([c], cursor.step)
  | none =>
      match codeLength? cursor.next with
      | some length => do
          let digits := (cursor.rest.drop 1).take length
          if digits.length = length ∧ digits.all (Digits.isDigitOf 16) then
            let c ← character (Digits.read 16 digits)
            return ([c], cursor.skip (length + 1))
          else
            .error .malformed
      | none =>
          match cursor.lineBreak? with
          | some (_, after) => quotedBreaks fuel after
          | none => .error .malformed

/-- Reads a quoted scalar up to its closing mark; the pieces before are kept last first. -/
def readQuoted (double : Bool) : Nat → List Text → Cursor → Except Error (Text × Cursor)
  | 0, _, _ => .error .malformed
  | fuel + 1, pieces, cursor =>
      let c := cursor.next
      if cursor.atEnd then
        .error .malformed
      else if !double && c == '\'' && cursor.peek 1 == '\'' then
        readQuoted double fuel (['\''] :: pieces) (cursor.skip 2)
      else if c == (if double then '"' else '\'') then
        .ok (together pieces, cursor.step)
      else if double && c == '\\' then do
        let (more, after) ← readEscape (fuel + 1) cursor.step
        readQuoted double fuel (more :: pieces) after
      else if isGap c || isBreak c then do
        let (gap, after) ← quotedGap (fuel + 1) cursor
        readQuoted double fuel (gap :: pieces) after
      else
        readQuoted double fuel ([c] :: pieces) cursor.step

inductive Chomping where
  | clip
  | strip
  | keep

def chomping? : Char → Option Chomping
  | '+' => some .keep
  | '-' => some .strip
  | _ => none

/-- Reads the marks after `|` or `>`: chomping, and the indentation of the content. -/
def blockMarks (cursor : Cursor) : Except Error (Chomping × Option Nat × Cursor) :=
  let digit? := fun (c : Char) => if Digits.isDecimal c then some (c.toNat - 48) else none
  match chomping? cursor.next with
  | some chomping =>
      match digit? (cursor.peek 1) with
      | some 0 => .error .malformed
      | some width => .ok (chomping, some width, cursor.skip 2)
      | none => .ok (chomping, none, cursor.step)
  | none =>
      match digit? cursor.next with
      | some 0 => .error .malformed
      | some width =>
          match chomping? (cursor.peek 1) with
          | some chomping => .ok (chomping, some width, cursor.skip 2)
          | none => .ok (.clip, some width, cursor.step)
      | none => .ok (.clip, none, cursor)

def blockHeaderEnd (cursor : Cursor) : Except Error Cursor :=
  if endsPart cursor.next then
    let cursor := cursor.skipSpaces.skipComment
    if endsLine cursor.next then .ok cursor.skipBreak else .error .malformed
  else
    .error .malformed

structure Leading where
  breaks : Text
  widest : Nat
  first : Option Nat
  cursor : Cursor

def leadingBreaks : Nat → Leading → Leading
  | 0, found => found
  | fuel + 1, found =>
      if found.cursor.next == ' ' then
        let cursor := found.cursor.step
        leadingBreaks fuel { found with widest := max found.widest cursor.column, cursor }
      else
        match found.cursor.lineBreak? with
        | some (c, after) =>
            leadingBreaks fuel {
              breaks := found.breaks ++ [c], widest := found.widest,
              first := found.first.or (some found.cursor.column), cursor := after }
        | none => found

/-- Whether an empty line stands further left than a later line before the content. -/
def Leading.isUneven (leading : Leading) : Bool :=
  match leading.first with
  | none => false
  | some column => 0 < column && column < leading.widest

def blockBreaks (indent : Int) : Nat → Text → Cursor → Text × Cursor
  | 0, found, cursor => (found, cursor)
  | fuel + 1, found, cursor =>
      let cursor := cursor.skipIndent indent
      match cursor.lineBreak? with
      | some (c, after) => blockBreaks indent fuel (found ++ [c]) after
      | none => (found, cursor)

def chomp (chomping : Chomping) (last : Text) (breaks : Text) : Text :=
  match chomping with
  | .clip => last
  | .strip => []
  | .keep => last ++ breaks

def blockLines (folded rootLevel : Bool) (indent : Int) (chomping : Chomping) :
    Nat → List Text → Text → Text → Cursor → Text × Cursor
  | 0, pieces, last, breaks, cursor => (together (chomp chomping last breaks :: pieces), cursor)
  | fuel + 1, pieces, last, breaks, cursor =>
      if cursor.column = indent ∧ ¬ cursor.atEnd then
        let leading := !isGap cursor.next
        let (line, after) := cursor.span (fun c => !endsLine c)
        let pieces := line :: breaks :: pieces
        let (last, after) : Text × Cursor :=
          match after.lineBreak? with
          | some (c, after) => ([c], after)
          | none => ([], after)
        let (breaks, after) := blockBreaks indent (fuel + 1) [] after
        let ends := rootLevel && after.column = 0 && after.atDocumentMark
        if !ends && after.column = indent && !after.atEnd then
          let joint :=
            if folded && last == ['\n'] && leading && !isGap after.next then
              if breaks.isEmpty then [' '] else []
            else
              last
          blockLines folded rootLevel indent chomping fuel (joint :: pieces) last breaks after
        else
          (together (chomp chomping last breaks :: pieces), after)
      else
        (together (chomp chomping last breaks :: pieces), cursor)

def readBlock (folded : Bool) (outer : Int) (fuel : Nat) (cursor : Cursor) :
    Except Error (Text × Cursor) := do
  let (chomping, width, cursor) ← blockMarks cursor
  let cursor ← blockHeaderEnd cursor
  let least := outer + 1
  match width with
  | none =>
      let leading := leadingBreaks fuel { breaks := [], widest := 0, first := none, cursor }
      if leading.isUneven then .error .malformed
      return blockLines folded (least = 0) (max least leading.widest) chomping fuel [] []
        leading.breaks leading.cursor
  | some width =>
      let least := max least 1
      let indent := least + width - 1
      let (breaks, cursor) := blockBreaks indent fuel [] cursor
      return blockLines folded false indent chomping fuel [] [] breaks cursor

end Yaml

end InputDeck
