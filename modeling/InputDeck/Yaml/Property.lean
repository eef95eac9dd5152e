import InputDeck.Yaml.Scalar
import InputDeck.Yaml.Token

/-!
What may stand before a node, and before a document: names, tags and directives.
-/

namespace InputDeck

namespace Yaml

def isAnchorChar (c : Char) : Bool :=
  let code := c.toNat
  !(",[]\x7b\x7d".toList.contains c) &&
    ((0x21 ≤ code && code ≤ 0x7E) || (0xA0 ≤ code && code ≤ 0xD7FF) ||
      (0xE000 ≤ code && code ≤ 0xFFFD && c != orderMark) || 0x10000 ≤ code)

def readName (cursor : Cursor) : Except Error (Text × Cursor) :=
  let (name, after) := cursor.span isAnchorChar
  if name.isEmpty || !(endsWord after.next || "?:,[]\x7b\x7d%@`".toList.contains after.next) then
    .error .malformed
  else
    .ok (name, after)

def isTagChar (version : Version) (c : Char) : Bool :=
  c.isAlphanum || "-;/?:@&=+$,_.!~*'()[]%".toList.contains c ||
    (c == '#' && version == .second)

def readBytes : Nat → List UInt8 → Cursor → Except Error (List UInt8 × Cursor)
  | 0, _, _ => .error .malformed
  | fuel + 1, bytes, cursor =>
      if cursor.next == '%' then
        let digits := (cursor.rest.drop 1).take 2
        if digits.length = 2 ∧ digits.all (Digits.isDigitOf 16) then
          readBytes fuel ((Digits.read 16 digits).toUInt8 :: bytes) (cursor.skip 3)
        else
          .error .malformed
      else
        .ok (bytes.reverse, cursor)

def readTagName (version : Version) : Nat → List Text → Cursor → Except Error (Text × Cursor)
  | 0, _, _ => .error .malformed
  | fuel + 1, pieces, cursor =>
      if cursor.next == '%' then do
        let (bytes, after) ← readBytes (fuel + 1) [] cursor
        match String.fromUTF8? ⟨bytes.toArray⟩ with
        | some text => readTagName version fuel (text.toList :: pieces) after
        | none => .error .malformed
      else if isTagChar version cursor.next then
        let (piece, after) := cursor.span (fun c => c != '%' && isTagChar version c)
        readTagName version fuel (piece :: pieces) after
      else if pieces.isEmpty then
        .error .malformed
      else
        .ok (together pieces, cursor)

/-- Reads the shorthand of a tag: a name between exclamation marks, or one such mark before a
space. -/
def readHandle (cursor : Cursor) : Except Error (Text × Cursor) :=
  if cursor.next != '!' then
    .error .malformed
  else if cursor.peek 1 == ' ' then
    .ok (['!'], cursor.step)
  else
    let (name, after) := cursor.step.span (fun c => c.isAlphanum || c == '-' || c == '_')
    if after.next == '!' then .ok ('!' :: name ++ ['!'], after.step) else .error .malformed

/-- Reads a tag, the place being at its first exclamation mark.  It is given in full between
angle brackets, or by a shorthand and a name; a mark alone asks for the tag that the content
has. -/
def readTag (version : Version) (fuel : Nat) (cursor : Cursor) :
    Except Error (Token × Cursor) := do
  let (handle, cursor) : Text × Cursor :=
    if cursor.peek 1 == '!' then (['!', '!'], cursor.step) else (['!'], cursor)
  let (token, after) ←
    if cursor.peek 1 == '<' then do
      let (name, after) ← readTagName version fuel [] (cursor.skip 2)
      if after.next == '>' then .ok (Token.tag none name, after.step) else .error .malformed
    else if endsWord (cursor.peek 1) then
      .ok (Token.tag none ['!'], cursor.step)
    else do
      let word := (cursor.rest.drop 1).takeWhile (fun c => !endsPart c)
      let (handle, after) ←
        if word.contains '!' then readHandle cursor else .ok (handle, cursor.step)
      let (name, after) ← readTagName version fuel [] after
      .ok (Token.tag (some handle) name, after)
  if endsPart after.next then return (token, after) else .error .malformed

def readVersionPart (cursor : Cursor) : Except Error (Nat × Cursor) :=
  let (digits, after) := cursor.span Digits.isDecimal
  if digits.isEmpty then .error .malformed
  else if Digits.countLimit < digits.length then
    .error (.noWholeNumber (.tooLong digits.length))
  else .ok (Digits.read 10 digits, after)

def readVersion (cursor : Cursor) : Except Error (Token × Cursor) := do
  let (major, after) ← readVersionPart cursor.skipSpaces
  if after.next != '.' then .error .malformed
  let (minor, after) ← readVersionPart after.step
  if endsPart after.next then return (.version major minor, after) else .error .malformed

def readShorthand (version : Version) (fuel : Nat) (cursor : Cursor) :
    Except Error (Token × Cursor) := do
  let (handle, after) ← readHandle cursor.skipSpaces
  if after.next != ' ' then .error .malformed
  let (start, after) ← readTagName version fuel [] after.skipSpaces
  if endsPart after.next then return (.shorthand handle start, after) else .error .malformed

/-- Reads a directive after its percent sign, up to the end of its line, which may hold a
comment. -/
def readDirective (version : Version) (fuel : Nat) (cursor : Cursor) :
    Except Error (Token × Cursor) := do
  let (name, after) := cursor.span (fun c => c.isAlphanum || "-_:.".toList.contains c)
  if name.isEmpty || !endsPart after.next then .error .malformed
  let (token, after) ←
    if name = "YAML".toList then readVersion after
    else if name = "TAG".toList then readShorthand version fuel after
    else .ok (.directive, after.skipLine)
  let after := after.skipSpaces.skipComment
  if endsLine after.next then return (token, after.skipBreak) else .error .malformed

end Yaml

end InputDeck
