import Inquiry.Text.Digit
import Inquiry.Yaml.Cursor

/-!
# Quoted YAML scalars

A quoted scalar may run over several lines.  A single line break inside it is
read as a blank, further breaks are kept, and the blanks around a break are
dropped.  Between double quotes a backslash escapes; between single quotes only
a doubled quote does.
-/

namespace Inquiry.Yaml

/-- A line break with the empty lines after it, as part of a scalar. -/
def folded (first : Char) (more : Text) : Text :=
  if first ≠ '\n' then first :: more
  else if more.isEmpty then [' ']
  else more

/-- The character that a short escape stands for. -/
def shortEscape? : Char → Option Char
  | '0' => some '\x00'
  | 'a' => some '\x07'
  | 'b' => some '\x08'
  | 't' => some '\t'
  | '\t' => some '\t'
  | 'n' => some '\n'
  | 'v' => some '\x0b'
  | 'f' => some '\x0c'
  | 'r' => some '\r'
  | 'e' => some '\x1b'
  | ' ' => some ' '
  | '\x22' => some '\x22'
  | '\\' => some '\\'
  | '/' => some '/'
  | 'N' => some '\x85'
  | '_' => some '\xa0'
  | 'L' => some '\u2028'
  | 'P' => some '\u2029'
  | _ => none

/-- The number of hexadecimal digits after the letter of a long escape. -/
def escapeWidth? : Char → Option Nat
  | 'x' => some 2
  | 'u' => some 4
  | 'U' => some 8
  | _ => none

namespace Cursor

/-- The line breaks before the next character of a quoted scalar.  A separator
between documents must not stand inside it. -/
def quotedBreaks? : (fuel : Nat) → Cursor → Option (Text × Cursor)
  | 0, _ => none
  | fuel + 1, cursor =>
      if cursor.atSeparator then none
      else
        let cursor := cursor.dropWhile isGap
        match cursor.lineBreak? with
        | none => some ([], cursor)
        | some (c, cursor) => do
            let (more, cursor) ← quotedBreaks? fuel cursor
            some (c :: more, cursor)

/-- Blanks inside a quoted scalar: kept within a line, folded around a line
break. -/
def quotedGap? (cursor : Cursor) : Option (Text × Cursor) :=
  let (gap, cursor) := cursor.takeWhile isGap
  match cursor.lineBreak? with
  | none => some (gap, cursor)
  | some (first, cursor) => do
      let (more, cursor) ← quotedBreaks? (cursor.rest.length + 1) cursor
      some (folded first more, cursor)

/-- The character of the given number of hexadecimal digits. -/
def hexEscape? (width : Nat) (cursor : Cursor) : Option (Text × Cursor) :=
  let digits := cursor.rest.take width
  let code := Text.inBase 16 digits
  if digits.length = width ∧ digits.all (fun c => (Text.hexDigit? c).isSome) ∧
      code.isValidChar then
    some ([Char.ofNat code], cursor.advanceBy width)
  else none

/-- What an escape stands for, its backslash being read. -/
def escape? (cursor : Cursor) : Option (Text × Cursor) := do
  let c ← cursor.next?
  match shortEscape? c, escapeWidth? c with
  | some found, _ => some ([found], cursor.advance)
  | none, some width => cursor.advance.hexEscape? width
  | none, none =>
      let (_, cursor) ← cursor.lineBreak?
      quotedBreaks? (cursor.rest.length + 1) cursor

/-- The next part of a quoted scalar; none at all at the closing quote. -/
def quotedPart? (double : Bool) (cursor : Cursor) :
    Option (Option Text × Cursor) := do
  let c ← cursor.next?
  let part (found : Text × Cursor) : Option Text × Cursor := (some found.1, found.2)
  if isGap c || isBreak c then cursor.quotedGap?.map part
  else if double then
    if c = '\x22' then some (none, cursor.advance)
    else if c = '\\' then cursor.advance.escape?.map part
    else some (some [c], cursor.advance)
  else if c = '\x27' then
    if cursor.advance.next? = some '\x27' then
      some (some ['\x27'], cursor.advanceBy 2)
    else some (none, cursor.advance)
  else some (some [c], cursor.advance)

/-- The content of a quoted scalar whose opening quote is read. -/
def quoted? (double : Bool) : (fuel : Nat) → Cursor → Option (Text × Cursor)
  | 0, _ => none
  | fuel + 1, cursor => do
      match ← cursor.quotedPart? double with
      | (none, cursor) => some ([], cursor)
      | (some found, cursor) =>
          let (more, cursor) ← quoted? double fuel cursor
          some (found ++ more, cursor)

end Cursor

end Inquiry.Yaml
