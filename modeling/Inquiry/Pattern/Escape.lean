import Inquiry.Pattern.Cursor
import Inquiry.Text.Digit

/-!
# Escapes

What a backslash and a letter stand for: a control character, a character given
by its digits, a named class or a position.  Other punctuation stands for
itself, and other letters are refused.

A character may also be given by its name.  No name is known here, and every one
is refused as undefined.
-/

namespace Inquiry.Pattern

/-- An octal digit. -/
def isOctal (c : Char) : Bool :=
  '0' ≤ c && c ≤ '7'

/-- The class that an escaped letter names. -/
def categoryItem? : Char → Option ClassItem
  | 'd' => some (.within .digit)
  | 'D' => some (.outside .digit)
  | 's' => some (.within .blank)
  | 'S' => some (.outside .blank)
  | 'w' => some (.within .word)
  | 'W' => some (.outside .word)
  | _ => none

/-- The position that an escaped letter names. -/
def escapedAnchor? (wide : Bool) : Char → Option Anchor
  | 'A' => some .textStart
  | 'Z' => some .textEnd
  | 'b' => some (.wordBoundary wide)
  | 'B' => some (.insideWord wide)
  | _ => none

/-- The control character that an escaped letter names. -/
def control? : Char → Option Char
  | 'a' => some '\x07'
  | 'f' => some '\x0c'
  | 'n' => some '\n'
  | 'r' => some '\r'
  | 't' => some '\t'
  | 'v' => some '\x0b'
  | '\\' => some '\\'
  | _ => none

/-- The last code point. -/
def lastPoint : Nat := 0x10FFFF

/-- The last number that is compared with the code points at all. -/
def lastNumber : Nat := 0x7FFFFFFF

/-- An escape with exactly `width` hexadecimal digits. -/
def hexEscape (letter : Char) (width : Nat) (cursor : Cursor) :
    Except ParseError (Nat × Cursor) := do
  let (digits, next) ← cursor.takeSome (fun c => (Text.hexDigit? c).isSome) width
  let escape : Text := '\\' :: letter :: digits
  let point := Text.inBase 16 digits
  if digits.length < width then
    next.fail (.incompleteEscape escape) escape.length
  else if lastNumber < point then next.fail .characterTooLarge
  else if lastPoint < point then next.fail (.badEscape escape) escape.length
  else .ok (point, next)

/-- A name of a character between braces. -/
def namedCharacter (cursor : Cursor) : Except ParseError (Nat × Cursor) := do
  match ← cursor.passes? '\x7b' with
  | none => cursor.fail .missingBrace
  | some next =>
      let (name, next) ←
        next.takeName "character name" '\x7d' (next.rest.length + 1) []
      next.fail (.unknownCharacterName name) (name.length + 4)

/-- The code point that an escape stands for, inside a class or out of it.
Other punctuation stands for itself; other letters and digits are refused. -/
def escapedPoint (letter : Char) (cursor : Cursor) :
    Except ParseError (Nat × Cursor) :=
  match control? letter with
  | some c => .ok (c.toNat, cursor)
  | none =>
      if letter = 'x' then hexEscape letter 2 cursor
      else if letter = 'u' then hexEscape letter 4 cursor
      else if letter = 'U' then hexEscape letter 8 cursor
      else if letter = 'N' then namedCharacter cursor
      else if letter.isAlphanum then cursor.fail (.badEscape ['\\', letter]) 2
      else .ok (letter.toNat, cursor)

end Inquiry.Pattern
