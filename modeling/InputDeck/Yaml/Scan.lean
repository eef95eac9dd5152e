import InputDeck.Yaml.Property

/-!
Finding the tokens of a text one after another.  A node followed by a colon is a key only in
hindsight, so places where a key may start are remembered, and the key mark is put there when the
colon comes.  A token is therefore handed out only when it is certain that no key mark will come
before it, and no more of the text is looked at than that takes.
-/

namespace InputDeck

namespace Yaml

inductive Flow where
  | sequence
  | mapping
deriving DecidableEq, Repr

/-- A place where a key may start: the number of tokens before it, and where it stands. -/
structure KeyPlace where
  number : Nat
  /-- In a block mapping every line has to start with a key. -/
  required : Bool
  index : Nat
  line : Nat
  column : Nat
deriving Repr

structure Scan where
  cursor : Cursor
  /-- A bound on the number of steps that any part of the text takes. -/
  fuel : Nat
  version : Version
  queue : List Token := []
  taken : Nat := 0
  flow : List Flow := []
  indent : Int := -1
  outer : List Int := []
  keyAllowed : Bool := true
  /-- For each flow level, where a key may have started. -/
  keys : List (Nat × KeyPlace) := []
  done : Bool := false
deriving Repr

def isAllowed (c : Char) : Bool :=
  let code := c.toNat
  code == 9 || code == 10 || code == 13 || (0x20 ≤ code && code ≤ 0x7E) || code == 0x85 ||
    (0xA0 ≤ code && code ≤ 0xD7FF) || (0xE000 ≤ code && code ≤ 0xFFFD) ||
    (0x10000 ≤ code && (Text.halfCode? c).isNone)

namespace Scan

def start (version : Version) (text : Text) : Except Error Scan :=
  if text.all isAllowed then
    let cursor : Cursor := { rest := text }
    let cursor := if cursor.next == orderMark then cursor.step else cursor
    .ok { cursor, fuel := text.length + 2, version }
  else
    .error .malformed

def emit (scan : Scan) (token : Token) : Scan :=
  { scan with queue := scan.queue ++ [token] }

def level (scan : Scan) : Nat :=
  scan.flow.length

def inFlow (scan : Scan) : Bool :=
  !scan.flow.isEmpty

def step (scan : Scan) : Scan :=
  { scan with cursor := scan.cursor.step }

def insertAt (scan : Scan) (number : Nat) (token : Token) : Scan :=
  let before := number - scan.taken
  { scan with queue := scan.queue.take before ++ token :: scan.queue.drop before }

def withoutKey (scan : Scan) : Scan :=
  { scan with keys := scan.keys.filter (fun (level, _) => level != scan.level) }

/-- Forgets where a key may have started on this flow level.  A required key may not be
forgotten. -/
def dropKey (scan : Scan) : Except Error Scan :=
  match scan.keys.lookup scan.level with
  | none => .ok scan
  | some place => if place.required then .error .malformed else .ok scan.withoutKey

def markKey (scan : Scan) : Except Error Scan :=
  if scan.keyAllowed then do
    let scan ← scan.dropKey
    let cursor := scan.cursor
    let place : KeyPlace := {
      number := scan.taken + scan.queue.length,
      required := !scan.inFlow && scan.indent == cursor.column,
      index := cursor.index, line := cursor.line, column := cursor.column }
    return { scan with keys := (scan.level, place) :: scan.keys }
  else
    .ok scan

/-- Forgets the places of keys that would span lines or be too long. -/
def dropStaleKeys (scan : Scan) : Except Error Scan :=
  let isStale := fun (place : KeyPlace) =>
    place.line != scan.cursor.line || 1024 < scan.cursor.index - place.index
  if scan.keys.any (fun (_, place) => isStale place && place.required) then
    .error .malformed
  else
    .ok { scan with keys := scan.keys.filter (fun (_, place) => !isStale place) }

def unwind (column : Int) : Nat → Scan → Scan
  | 0, scan => scan
  | fuel + 1, scan =>
      if scan.inFlow || scan.indent ≤ column then
        scan
      else
        match scan.outer with
        | [] => scan
        | indent :: outer => unwind column fuel ({ scan with indent, outer }.emit .blockEnd)

def unwindTo (column : Int) (scan : Scan) : Scan :=
  unwind column (scan.outer.length + 1) scan

def indentTo (column : Nat) (scan : Scan) : Option Scan :=
  if scan.indent < column then
    some { scan with outer := scan.indent :: scan.outer, indent := column }
  else
    none

def openBlock (token : Token) (scan : Scan) : Scan :=
  match scan.indentTo scan.cursor.column with
  | some scan => scan.emit token
  | none => scan

/-- Moves over white space and comments.  Tabs count as white space in flow collections only. -/
def skipGap : Nat → Scan → Scan
  | 0, scan => scan
  | fuel + 1, scan =>
      let cursor := if scan.inFlow then scan.cursor.skipGap else scan.cursor.skipSpaces
      let cursor := cursor.skipComment
      match cursor.lineBreak? with
      | some (_, after) =>
          skipGap fuel {
            scan with cursor := after, keyAllowed := scan.keyAllowed || !scan.inFlow }
      | none => { scan with cursor }

def startsPlain (scan : Scan) : Bool :=
  let c := scan.cursor.next
  let after := scan.cursor.peek 1
  !(endsWord c || "-?:,[]\x7b\x7d#&*!|>'\"%@`".toList.contains c) ||
    (scan.version == .second && c == ':' && scan.inFlow && !isGap after) ||
    (!endsWord after && (c == '-' || (!scan.inFlow && (c == '?' || c == ':'))))

def startsValue (scan : Scan) : Bool :=
  let followed := endsWord (scan.cursor.peek 1)
  match scan.version, scan.flow with
  | _, [] => followed
  | .first, _ :: _ => true
  | .second, .sequence :: _ => followed
  | .second, .mapping :: _ => followed || scan.queue.getLast? != some .value

def context (scan : Scan) : Context :=
  if !scan.inFlow then .block
  else if scan.version == .first then .strictFlow
  else .flow

def documentMark (token : Token) (scan : Scan) : Except Error Scan := do
  let scan ← (scan.unwindTo (-1)).dropKey
  let scan := { scan with keyAllowed := false, cursor := scan.cursor.skip 3 }
  return scan.emit token

def directive (scan : Scan) : Except Error Scan := do
  let scan ← (scan.unwindTo (-1)).dropKey
  let (token, cursor) ← readDirective scan.version scan.fuel scan.cursor.step
  return emit { scan with keyAllowed := false, cursor } token

def openFlow (flow : Flow) (token : Token) (scan : Scan) : Except Error Scan := do
  let scan ← scan.markKey
  return { scan with flow := flow :: scan.flow, keyAllowed := true }.step.emit token

def closeFlow (token : Token) (scan : Scan) : Except Error Scan := do
  let scan ← scan.dropKey
  return { scan with flow := scan.flow.drop 1, keyAllowed := false }.step.emit token

def flowEntry (scan : Scan) : Except Error Scan := do
  let scan ← { scan with keyAllowed := true }.dropKey
  return scan.step.emit .flowEntry

def entry (scan : Scan) : Except Error Scan := do
  let scan ←
    if scan.inFlow then .ok scan
    else if scan.keyAllowed then .ok (scan.openBlock .sequenceStart)
    else .error .malformed
  let scan ← { scan with keyAllowed := true }.dropKey
  return scan.step.emit .entry

def explicitKey (scan : Scan) : Except Error Scan := do
  let scan ←
    if scan.inFlow then .ok scan
    else if scan.keyAllowed then .ok (scan.openBlock .mappingStart)
    else .error .malformed
  let scan ← { scan with keyAllowed := !scan.inFlow }.dropKey
  return scan.step.emit .key

def value (scan : Scan) : Except Error Scan := do
  let scan ←
    match scan.keys.lookup scan.level with
    | some place =>
        let scan := insertAt { scan.withoutKey with keyAllowed := false } place.number .key
        if scan.inFlow then
          .ok scan
        else
          match scan.indentTo place.column with
          | some scan => .ok (scan.insertAt place.number .mappingStart)
          | none => .ok scan
    | none =>
        if scan.inFlow then
          dropKey { scan with keyAllowed := false }
        else if scan.keyAllowed then
          dropKey { scan.openBlock .mappingStart with keyAllowed := true }
        else
          .error .malformed
  return scan.step.emit .value

def name (token : Text → Token) (scan : Scan) : Except Error Scan := do
  let scan ← scan.markKey
  let (name, cursor) ← readName scan.cursor.step
  return { scan with keyAllowed := false, cursor }.emit (token name)

def tag (scan : Scan) : Except Error Scan := do
  let scan ← scan.markKey
  let (token, cursor) ← readTag scan.version scan.fuel scan.cursor
  return { scan with keyAllowed := false, cursor }.emit token

def quotedScalar (double : Bool) (scan : Scan) : Except Error Scan := do
  let scan ← scan.markKey
  let (text, cursor) ← readQuoted double scan.fuel [] scan.cursor.step
  return { scan with keyAllowed := false, cursor }.emit (.scalar text false)

def blockScalar (folded : Bool) (scan : Scan) : Except Error Scan := do
  let scan ← { scan with keyAllowed := true }.dropKey
  let (text, cursor) ← readBlock folded scan.indent scan.fuel scan.cursor.step
  return { scan with cursor }.emit (.scalar text false)

def plainScalar (scan : Scan) : Except Error Scan := do
  let scan ← scan.markKey
  let (text, broken, cursor) :=
    readPlain scan.context (scan.indent + 1) scan.fuel [] [] false scan.cursor
  return { scan with keyAllowed := broken, cursor }.emit (.scalar text true)

def token (scan : Scan) : Except Error Scan :=
  let cursor := scan.cursor
  let c := cursor.next
  if c == '%' && cursor.column == 0 then scan.directive
  else if cursor.column == 0 && cursor.startsMark '-' then scan.documentMark .documentStart
  else if cursor.column == 0 && cursor.startsMark '.' then scan.documentMark .documentEnd
  else if c == '[' then scan.openFlow .sequence .flowSequenceStart
  else if c == '{' then scan.openFlow .mapping .flowMappingStart
  else if c == ']' then scan.closeFlow .flowSequenceEnd
  else if c == '}' then scan.closeFlow .flowMappingEnd
  else if c == ',' then scan.flowEntry
  else if c == '-' && endsWord (cursor.peek 1) then scan.entry
  else if c == '?' && (scan.inFlow || endsWord (cursor.peek 1)) then scan.explicitKey
  else if c == ':' && scan.startsValue then scan.value
  else if c == '*' then scan.name .alias
  else if c == '&' then scan.name .anchor
  else if c == '!' then scan.tag
  else if c == '|' && !scan.inFlow then scan.blockScalar false
  else if c == '>' && !scan.inFlow then scan.blockScalar true
  else if c == '\'' then scan.quotedScalar false
  else if c == '"' then scan.quotedScalar true
  else if scan.startsPlain then scan.plainScalar
  else .error .malformed

def finish (scan : Scan) : Except Error Scan := do
  let scan ← (scan.unwindTo (-1)).dropKey
  return { scan with keyAllowed := false, keys := [], done := true }.emit .streamEnd

def advance (scan : Scan) : Except Error Scan := do
  let scan ← (scan.skipGap scan.fuel).dropStaleKeys
  let scan := scan.unwindTo scan.cursor.column
  if scan.cursor.atEnd then scan.finish else scan.token

/-- Finds tokens until the next one is certain. -/
def settle : Nat → Scan → Except Error Scan
  | 0, scan => .ok scan
  | fuel + 1, scan =>
      if scan.done then
        .ok scan
      else if scan.queue.isEmpty then do
        settle fuel (← scan.advance)
      else do
        let scan ← scan.dropStaleKeys
        if scan.keys.any (fun (_, place) => place.number == scan.taken) then
          settle fuel (← scan.advance)
        else
          .ok scan

def peek (scan : Scan) : Except Error (Token × Scan) := do
  let scan ← scan.settle scan.fuel
  return (scan.queue.headD .streamEnd, scan)

def take (scan : Scan) : Scan :=
  { scan with queue := scan.queue.tail, taken := scan.taken + 1 }

end Scan

end Yaml

end InputDeck
