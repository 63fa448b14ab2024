import Inquiry.Text.Digit
import Inquiry.Yaml.Token

/-!
# Names, tags and directives

Anchors, tags and directives are read on their own.  A tag is written out in
full between angle brackets, or begins with a handle that stands for the
beginning of the full tag.
-/

namespace Inquiry.Yaml

/-- A character of an anchor or a handle. -/
def isNameChar (c : Char) : Bool :=
  c.isAlphanum || c == '-' || c == '_'

/-- A character that may follow the name of an anchor. -/
def followsName (c : Char) : Bool :=
  let marks : Text := "?:,]\x7d%@\x60"
  isGap c || isBreak c || marks.contains c

/-- A character of a tag. -/
def isTagChar (c : Char) : Bool :=
  let marks : Text := "-;/?:@&=+$,_.!~*'()[]%"
  c.isAlphanum || marks.contains c

/-- A blank that ends a tag or a directive.  A tab does not. -/
def endsTag (c : Char) : Bool :=
  c == ' ' || isBreak c

/-- Replaces the codes after percent signs, which spell bytes, by the bytes;
all other characters are ASCII. -/
def tagBytes? : Text → Option (List UInt8)
  | [] => some []
  | '%' :: high :: low :: rest => do
      let _ ← Text.hexDigit? high
      let _ ← Text.hexDigit? low
      let bytes ← tagBytes? rest
      some (UInt8.ofNat (Text.inBase 16 [high, low]) :: bytes)
  | '%' :: _ => none
  | c :: rest => (tagBytes? rest).map (UInt8.ofNat c.toNat :: ·)

/-- The tag that its written form spells. -/
def unescapeTag? (written : Text) : Option Text := do
  let bytes ← tagBytes? written
  let spelled ← String.fromUTF8? ⟨bytes.toArray⟩
  some spelled.toList

namespace Cursor

/-- A name after the mark of an anchor or a reference. -/
def name? (cursor : Cursor) : Option (Text × Cursor) :=
  let (name, cursor) := cursor.takeWhile isNameChar
  if name.isEmpty || !startsWith followsName cursor.rest then none
  else some (name, cursor)

/-- The characters of a tag, which must not be missing. -/
def tagText? (cursor : Cursor) : Option (Text × Cursor) := do
  let (written, cursor) := cursor.takeWhile isTagChar
  if written.isEmpty then none
  else some (← unescapeTag? written, cursor)

/-- The handle of a tag, which is an exclamation mark or a name between two of
them. -/
def tagHandle? (cursor : Cursor) : Option (Text × Cursor) := do
  let cursor ← cursor.expect? '!'
  if cursor.next? = some ' ' then some (['!'], cursor)
  else
    let (name, cursor) := cursor.takeWhile isNameChar
    let cursor ← cursor.expect? '!'
    some ('!' :: name ++ ['!'], cursor)

/-- The handle and the remainder of a tag. -/
def tagParts? (cursor : Cursor) : Option (Option Text × Text × Cursor) := do
  let inner := cursor.advance
  if inner.next? = some '<' then
    let (suffix, cursor) ← inner.advance.tagText?
    some (none, suffix, ← cursor.expect? '>')
  else if atWordEnd inner.rest then some (none, ['!'], inner)
  else
    let word := inner.rest.takeWhile fun c => !endsTag c
    let (handle, cursor) ←
      if word.contains '!' then cursor.tagHandle? else some (['!'], inner)
    let (suffix, cursor) ← cursor.tagText?
    some (some handle, suffix, cursor)

/-- A tag. -/
def tag? (cursor : Cursor) : Option (Token × Cursor) := do
  let (handle, suffix, cursor) ← cursor.tagParts?
  if startsWith endsTag cursor.rest then some (.tag handle suffix, cursor) else none

/-- One digit or more. -/
def digits? (cursor : Cursor) : Option (Text × Cursor) :=
  let (digits, cursor) := cursor.takeWhile Char.isDigit
  if digits.isEmpty then none else some (digits, cursor)

/-- The version that a directive states. -/
def version? (cursor : Cursor) : Option (Token × Cursor) := do
  let (major, cursor) ← (cursor.dropWhile (· == ' ')).digits?
  let (_, cursor) ← (← cursor.expect? '.').digits?
  if startsWith endsTag cursor.rest then
    some (.version (Text.inBase 10 major), cursor)
  else none

/-- The handle that a directive gives a meaning to. -/
def handle? (cursor : Cursor) : Option (Token × Cursor) := do
  let (name, cursor) ← (cursor.dropWhile (· == ' ')).tagHandle?
  if cursor.next? ≠ some ' ' then none
  else
    let (beginning, cursor) ← (cursor.dropWhile (· == ' ')).tagText?
    if startsWith endsTag cursor.rest then some (.handle name beginning, cursor)
    else none

/-- A directive whose percent sign is read. -/
def directive? (cursor : Cursor) : Option (Token × Cursor) := do
  let (name, cursor) := cursor.takeWhile isNameChar
  if name.isEmpty || !startsWith endsTag cursor.rest then none
  else
    let (token, cursor) ←
      if name = "YAML" then cursor.version?
      else if name = "TAG" then cursor.handle?
      else some (.otherDirective, cursor.dropWhile (!isBreak ·))
    some (token, ← cursor.finishLine?)

end Cursor

end Inquiry.Yaml
