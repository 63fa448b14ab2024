import Inquiry.Text.Basic

/-!
# Positions in a YAML text

Columns and lines carry meaning in YAML.  A cursor is the part of a text that is
still to be read together with the position at which it begins.
-/

namespace Inquiry.Yaml

/-- Ends a line.  Carriage returns are written as line feeds beforehand. -/
def isBreak (c : Char) : Bool :=
  c == '\n' || c == '\x85' || c == '\u2028' || c == '\u2029'

/-- A blank inside a line. -/
def isGap (c : Char) : Bool :=
  c == ' ' || c == '\t'

/-- The character may stand in a YAML text. -/
def isAllowed (c : Char) : Bool :=
  let point := c.toNat
  c == '\t' || c == '\n' || c == '\x85' || (0x20 ≤ point && point ≤ 0x7E) ||
    (0xA0 ≤ point && point ≤ 0xD7FF) || (0xE000 ≤ point && point ≤ 0xFFFD) ||
    0x10000 ≤ point

/-- The first character satisfies a test, or there is none. -/
def startsWith (test : Char → Bool) (text : Text) : Bool :=
  text.head?.all test

/-- Nothing is left of the current line. -/
def atLineEnd (text : Text) : Bool :=
  startsWith isBreak text

/-- Nothing is left of the current word. -/
def atWordEnd (text : Text) : Bool :=
  startsWith (fun c => isGap c || isBreak c) text

/-- The part of a text that is still to be read, and its position. -/
structure Cursor where
  rest : Text
  /-- The number of characters before the position. -/
  index : Nat := 0
  line : Nat := 0
  column : Nat := 0
  deriving Repr, DecidableEq

namespace Cursor

/-- The next character. -/
def next? (cursor : Cursor) : Option Char :=
  cursor.rest.head?

/-- Moves past the next character.  A byte order mark takes no column. -/
def advance (cursor : Cursor) : Cursor :=
  match cursor.rest with
  | [] => cursor
  | c :: rest =>
      if isBreak c then
        { rest, index := cursor.index + 1, line := cursor.line + 1, column := 0 }
      else
        { rest, index := cursor.index + 1, line := cursor.line
          column := if c = '\ufeff' then cursor.column else cursor.column + 1 }

/-- Moves past a number of characters. -/
def advanceBy : Nat → Cursor → Cursor
  | 0, cursor => cursor
  | count + 1, cursor => advanceBy count cursor.advance

/-- Moves past the leading characters that satisfy a test, and returns them. -/
def takeWhile (test : Char → Bool) (cursor : Cursor) : Text × Cursor :=
  let taken := cursor.rest.takeWhile test
  (taken, cursor.advanceBy taken.length)

/-- Moves past the leading characters that satisfy a test. -/
def dropWhile (test : Char → Bool) (cursor : Cursor) : Cursor :=
  (cursor.takeWhile test).2

/-- Moves past a line break and returns it; most breaks are read as line
feeds. -/
def lineBreak? (cursor : Cursor) : Option (Char × Cursor) :=
  match cursor.next? with
  | some c =>
      if isBreak c then some (if c = '\x85' then '\n' else c, cursor.advance) else none
  | none => none

/-- Moves past one expected character. -/
def expect? (c : Char) (cursor : Cursor) : Option Cursor :=
  if cursor.next? = some c then some cursor.advance else none

/-- The cursor stands at a mark of three characters that separates documents. -/
def atMark (mark : Text) (cursor : Cursor) : Bool :=
  cursor.column == 0 && mark.isPrefixOf cursor.rest &&
    atWordEnd (cursor.rest.drop mark.length)

/-- The mark before a document. -/
def startMark : Text := "---"

/-- The mark after a document. -/
def endMark : Text := "..."

/-- The cursor stands between two documents. -/
def atSeparator (cursor : Cursor) : Bool :=
  cursor.atMark startMark || cursor.atMark endMark

/-- Moves past the remainder of a line that holds nothing but a comment. -/
def finishLine? (cursor : Cursor) : Option Cursor :=
  let cursor := cursor.dropWhile (· == ' ')
  let cursor :=
    if cursor.next? = some '#' then cursor.dropWhile (!isBreak ·) else cursor
  if atLineEnd cursor.rest then some cursor.advance else none

end Cursor

end Inquiry.Yaml
