import Inquiry.Text.Blank
import Inquiry.Yaml.Block
import Inquiry.Yaml.Plain
import Inquiry.Yaml.Tag

/-!
# The tokens of a YAML text

Whether a token is a key is known only when a colon follows it.  Until then it
is pending: it has to stand on the line of the colon and not too far before it.
The token that marks it as a key is put in front of it afterwards, and so is the
one that opens a block if the key stands further to the right than the blocks
that are open.

Outside brackets the indentation of a line closes blocks.  Inside brackets it
has no meaning.
-/

namespace Inquiry.Yaml

/-- A token that becomes a key if a colon follows it in time. -/
structure PendingKey where
  /-- The number of tokens before it. -/
  number : Nat
  /-- It stands where nothing but a key may stand. -/
  required : Bool
  index : Nat
  line : Nat
  column : Nat
  deriving Repr, DecidableEq

namespace PendingKey

/-- The most characters from the beginning of a key to its colon. -/
def reach : Nat := 1024

/-- No colon can make the token a key any more. -/
def isStale (key : PendingKey) (cursor : Cursor) : Bool :=
  key.line != cursor.line || reach < cursor.index - key.index

/-- A pending key goes when it is stale; a required one must not. -/
def refresh? (cursor : Cursor) : Option PendingKey → Option (Option PendingKey)
  | none => some none
  | some key =>
      if !key.isStale cursor then some (some key)
      else if key.required then none
      else some none

end PendingKey

/-- A text read up to a position. -/
structure Reading where
  cursor : Cursor
  /-- The tokens, latest first. -/
  found : List Token := []
  /-- The columns of the open blocks, innermost first. -/
  blocks : List Nat := []
  /-- The pending key inside the innermost bracket. -/
  pending : Option PendingKey := none
  /-- The pending keys around it, one for every open bracket. -/
  outer : List (Option PendingKey) := []
  /-- A key may begin here. -/
  keyAllowed : Bool := true
  deriving Repr, DecidableEq

namespace Reading

/-- The position is inside brackets. -/
def inFlow (reading : Reading) : Bool :=
  !reading.outer.isEmpty

/-- Adds a token. -/
def add (token : Token) (reading : Reading) : Reading :=
  { reading with found := token :: reading.found }

/-- Moves past a number of characters. -/
def advanceBy (count : Nat) (reading : Reading) : Reading :=
  { reading with cursor := reading.cursor.advanceBy count }

/-- Lets stale keys go. -/
def refresh? (reading : Reading) : Option Reading := do
  let pending ← PendingKey.refresh? reading.cursor reading.pending
  let outer ← reading.outer.mapM (PendingKey.refresh? reading.cursor)
  some { reading with pending, outer }

/-- Lets the pending key go, which must not be required. -/
def dropKey? (reading : Reading) : Option Reading :=
  if reading.pending.any (·.required) then none
  else some { reading with pending := none }

/-- Notes that the next token may become a key. -/
def noteKey? (reading : Reading) : Option Reading := do
  if !reading.keyAllowed then some reading
  else
    let reading ← reading.dropKey?
    let cursor := reading.cursor
    some { reading with pending := some {
      number := reading.found.length
      required := !reading.inFlow && reading.blocks.head? == some cursor.column
      index := cursor.index
      line := cursor.line
      column := cursor.column } }

/-- Closes the blocks whose columns satisfy a test, from the innermost on. -/
def closeBlocks (closes : Nat → Bool) (reading : Reading) : Reading :=
  if reading.inFlow then reading
  else
    let closed := reading.blocks.takeWhile closes
    { reading with
      found := closed.map (fun _ => Token.blockEnd) ++ reading.found
      blocks := reading.blocks.drop closed.length }

/-- The column is to the right of every open block. -/
def opensBlock (column : Nat) (reading : Reading) : Bool :=
  !reading.inFlow && reading.blocks.head?.all (· < column)

/-- Opens a block at the position if it is to the right of the open ones. -/
def openBlock (token : Token) (reading : Reading) : Reading :=
  let column := reading.cursor.column
  if reading.opensBlock column then
    { reading.add token with blocks := column :: reading.blocks }
  else reading

/-- Moves past blanks, comments and line breaks. -/
def skipBlanks : (fuel : Nat) → Reading → Reading
  | 0, reading => reading
  | fuel + 1, reading =>
      let cursor := reading.cursor.dropWhile (· == ' ')
      let cursor :=
        if cursor.next? = some '#' then cursor.dropWhile (!isBreak ·) else cursor
      match cursor.lineBreak? with
      | none => { reading with cursor }
      | some (_, cursor) =>
          skipBlanks fuel { reading with
            cursor, keyAllowed := reading.keyAllowed || !reading.inFlow }

/-- A mark between documents or a directive: everything open ends. -/
def endAll? (reading : Reading) : Option Reading := do
  let reading ← (reading.closeBlocks fun _ => true).dropKey?
  some { reading with keyAllowed := false }

/-- A directive. -/
def directive? (reading : Reading) : Option Reading := do
  let reading ← reading.endAll?
  let (token, cursor) ← reading.cursor.advance.directive?
  some { reading.add token with cursor }

/-- A mark between documents. -/
def separator? (token : Token) (reading : Reading) : Option Reading := do
  let reading ← reading.endAll?
  some ((reading.add token).advanceBy 3)

/-- An opening bracket. -/
def openFlow? (token : Token) (reading : Reading) : Option Reading := do
  let reading ← reading.noteKey?
  let inner := { reading with
    pending := none, outer := reading.pending :: reading.outer, keyAllowed := true }
  some ((inner.add token).advanceBy 1)

/-- A closing bracket. -/
def closeFlow? (token : Token) (reading : Reading) : Option Reading := do
  let reading ← reading.dropKey?
  match reading.outer with
  | [] => none
  | pending :: outer =>
      some (({ reading with pending, outer, keyAllowed := false }.add token).advanceBy 1)

/-- A comma inside brackets. -/
def flowEntry? (reading : Reading) : Option Reading := do
  let reading ← reading.dropKey?
  some (({ reading with keyAllowed := true }.add .flowEntry).advanceBy 1)

/-- A hyphen before an item. -/
def blockEntry? (reading : Reading) : Option Reading := do
  if !reading.inFlow && !reading.keyAllowed then none
  else
    let reading ← (reading.openBlock .blockSequenceStart).dropKey?
    some (({ reading with keyAllowed := true }.add .blockEntry).advanceBy 1)

/-- A question mark before a key. -/
def key? (reading : Reading) : Option Reading := do
  if !reading.inFlow && !reading.keyAllowed then none
  else
    let reading ← (reading.openBlock .blockMappingStart).dropKey?
    some (({ reading with keyAllowed := !reading.inFlow }.add .key).advanceBy 1)

/-- Marks a pending token as a key. -/
def markKey (key : PendingKey) (reading : Reading) : Reading :=
  let later := reading.found.take (reading.found.length - key.number)
  let earlier := reading.found.drop (reading.found.length - key.number)
  let opens := reading.opensBlock key.column
  { reading with
    found :=
      later ++ Token.key :: (if opens then .blockMappingStart :: earlier else earlier)
    blocks := if opens then key.column :: reading.blocks else reading.blocks
    pending := none
    keyAllowed := false }

/-- A colon before a value. -/
def value? (reading : Reading) : Option Reading := do
  let reading ←
    match reading.pending with
    | some key => some (reading.markKey key)
    | none =>
        if !reading.inFlow && !reading.keyAllowed then none
        else
          let reading := reading.openBlock .blockMappingStart
          some { reading with keyAllowed := !reading.inFlow }
  some ((reading.add .value).advanceBy 1)

/-- An anchor, a reference or a tag, which may begin a key. -/
def property? (read : Cursor → Option (Token × Cursor)) (reading : Reading) :
    Option Reading := do
  let reading ← reading.noteKey?
  let (token, cursor) ← read reading.cursor
  some { reading.add token with cursor, keyAllowed := false }

/-- A block scalar, after which a key may begin. -/
def blockScalar? (fold : Bool) (reading : Reading) : Option Reading := do
  let reading ← reading.dropKey?
  let least := (reading.blocks.head?.map (· + 1)).getD 1
  let (content, cursor) ← reading.cursor.advance.block? fold least
  some { reading.add (.scalar false content) with cursor, keyAllowed := true }

/-- A quoted scalar. -/
def quoted? (double : Bool) (reading : Reading) : Option Reading :=
  reading.property? fun cursor => do
    let (content, cursor) ← cursor.advance.quoted? double (cursor.rest.length + 1)
    some (.scalar false content, cursor)

/-- A plain scalar.  A key may begin on the line after it. -/
def plain? (reading : Reading) : Option Reading := do
  let reading ← reading.noteKey?
  let indent := (reading.blocks.head?.map (· + 1)).getD 0
  let (content, lineEnded, cursor) := reading.cursor.plain reading.inFlow indent
  some { reading.add (.scalar true content) with cursor, keyAllowed := lineEnded }

/-- A character that has a meaning of its own at the beginning of a token. -/
def isIndicator (c : Char) : Bool :=
  let marks : Text := "-?:,[]\x7b\x7d#&*!|>'\x22%@\x60"
  isGap c || isBreak c || marks.contains c

/-- A plain scalar may begin with the character. -/
def beginsPlain (inFlow : Bool) (c : Char) (rest : Text) : Bool :=
  !isIndicator c ||
    (!atWordEnd rest && (c == '-' || (!inFlow && (c == '?' || c == ':'))))

/-- The token that begins with a character, whatever its column. -/
def tokenAt? (c : Char) (rest : Text) (reading : Reading) : Option Reading :=
  let markEnds := reading.inFlow || atWordEnd rest
  match c with
  | '[' => reading.openFlow? .flowSequenceStart
  | '\x7b' => reading.openFlow? .flowMappingStart
  | ']' => reading.closeFlow? .flowSequenceEnd
  | '\x7d' => reading.closeFlow? .flowMappingEnd
  | ',' => reading.flowEntry?
  | '*' => reading.property? fun cursor =>
      cursor.advance.name?.map fun (name, cursor) => (.reference name, cursor)
  | '&' => reading.property? fun cursor =>
      cursor.advance.name?.map fun (name, cursor) => (.anchor name, cursor)
  | '!' => reading.property? Cursor.tag?
  | '\x27' => reading.quoted? false
  | '\x22' => reading.quoted? true
  | _ =>
      if c = '-' ∧ atWordEnd rest then reading.blockEntry?
      else if c = '?' ∧ markEnds then reading.key?
      else if c = ':' ∧ markEnds then reading.value?
      else if c = '|' ∧ !reading.inFlow then reading.blockScalar? false
      else if c = '>' ∧ !reading.inFlow then reading.blockScalar? true
      else if beginsPlain reading.inFlow c rest then reading.plain?
      else none

/-- The next token.  A directive or a mark between documents begins a line. -/
def token? (reading : Reading) : Option Reading :=
  let cursor := reading.cursor
  match cursor.rest with
  | [] => some reading
  | c :: rest =>
      if c = '%' ∧ cursor.column = 0 then reading.directive?
      else if cursor.atMark Cursor.startMark then reading.separator? .documentStart
      else if cursor.atMark Cursor.endMark then reading.separator? .documentEnd
      else reading.tokenAt? c rest

/-- The tokens that are found from a position on.  Every token has at least one
character. -/
def tokens? : (fuel : Nat) → Reading → Option (List Token)
  | 0, _ => none
  | fuel + 1, reading => do
      let reading ← (reading.skipBlanks (reading.cursor.rest.length + 1)).refresh?
      let column := reading.cursor.column
      if reading.cursor.rest.isEmpty then
        let reading ← reading.endAll?
        some reading.found.reverse
      else
        tokens? fuel (← (reading.closeBlocks (column < ·)).token?)

end Reading

/-- The tokens of a text.  A byte order mark may stand before them. -/
def tokens? (text : Text) : Option (List Token) :=
  let text := Text.unifyNewlines text
  let cursor : Cursor := { rest := text }
  let cursor := if text.head? = some '\ufeff' then cursor.advance else cursor
  if text.all isAllowed then ({ cursor } : Reading).tokens? (text.length + 2) else none

end Inquiry.Yaml
