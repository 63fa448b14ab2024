import Inquiry.Value.Basic
import Inquiry.Decimal.Integer

/-!
# Reading JSON

The reader follows the JSON grammar strictly: no control characters inside
texts, no trailing commas, no leading zeros.  Beyond the grammar it accepts
`NaN` and the infinities.  Numbers without fraction and exponent are integers
of any size up to the digit limit; a repeated key keeps its first place and its
last value.

Texts hold no surrogates.  An escaped surrogate that is not one of a pair is read
as the replacement character.
-/

namespace Inquiry.Json

/-- Why a text is refused. -/
inductive ReadError where
  | malformed
  /-- An integer has more digits than are read. -/
  | integerTooLong (digits : Nat)
  deriving Repr, DecidableEq

/-- One of the four blanks that may stand between tokens. -/
def isGap (c : Char) : Bool :=
  c == ' ' || c == '\t' || c == '\n' || c == '\r'

/-- Drops the blanks before the next token. -/
def skipGap (text : Text) : Text :=
  text.dropWhile isGap

/-- Four hexadecimal digits at the front of a text. -/
def hexUnit? : Text → Option (Nat × Text)
  | a :: b :: c :: d :: rest =>
      if [a, b, c, d].all fun c => (Text.hexDigit? c).isSome then
        some (Text.inBase 16 [a, b, c, d], rest)
      else none
  | _ => none

/-- The character that a short escape stands for. -/
def shortEscape? : Char → Option Char
  | '\x22' => some '\x22'
  | '\\' => some '\\'
  | '/' => some '/'
  | 'b' => some '\x08'
  | 'f' => some '\x0c'
  | 'n' => some '\n'
  | 'r' => some '\r'
  | 't' => some '\t'
  | _ => none

/-- A low surrogate written right after a high one completes it. -/
def lowSurrogate? : Text → Option (Nat × Text)
  | '\\' :: 'u' :: rest =>
      match hexUnit? rest with
      | some (unit, rest) =>
          if 0xDC00 ≤ unit ∧ unit ≤ 0xDFFF then some (unit, rest) else none
      | none => none
  | _ => none

/-- The character after an escaping backslash.  A surrogate on its own is
replaced. -/
def escape? : Text → Option (Char × Text)
  | 'u' :: rest => do
      let (unit, rest) ← hexUnit? rest
      if 0xD800 ≤ unit ∧ unit ≤ 0xDBFF then
        match lowSurrogate? rest with
        | some (low, rest) =>
            some (Char.ofNat (0x10000 + (unit - 0xD800) * 0x400 + (low - 0xDC00)), rest)
        | none => some ('\uFFFD', rest)
      else if 0xDC00 ≤ unit ∧ unit ≤ 0xDFFF then some ('\uFFFD', rest)
      else some (Char.ofNat unit, rest)
  | c :: rest => (shortEscape? c).map (·, rest)
  | [] => none

/-- The content of a text whose opening quote has been read.  Every round
reads at least one character. -/
def content : (fuel : Nat) → Text → Except ReadError (Text × Text)
  | 0, _ => .error .malformed
  | _, [] => .error .malformed
  | _, '\x22' :: rest => .ok ([], rest)
  | fuel + 1, '\\' :: rest =>
      match escape? rest with
      | none => .error .malformed
      | some (c, rest) => do
          let (more, rest) ← content fuel rest
          .ok (c :: more, rest)
  | fuel + 1, c :: rest =>
      if c.toNat < 32 then .error .malformed
      else do
        let (more, rest) ← content fuel rest
        .ok (c :: more, rest)

/-- The digits at the front of a text and what follows them. -/
def digits (text : Text) : Text × Text :=
  (text.takeWhile Char.isDigit, text.dropWhile Char.isDigit)

/-- A point followed by digits. -/
def fraction? : Text → Option (Text × Text)
  | '.' :: rest =>
      let (places, rest) := digits rest
      if places.isEmpty then none else some (places, rest)
  | _ => none

/-- An exponent mark, an optional sign and digits. -/
def exponent? : Text → Option (Int × Text)
  | mark :: rest =>
      if mark = 'e' ∨ mark = 'E' then
        let (negative, rest) := match rest with
          | '-' :: rest => (true, rest)
          | '+' :: rest => (false, rest)
          | rest => (false, rest)
        let (power, rest) := digits rest
        let size : Int := Text.inBase 10 power
        if power.isEmpty then none else some (if negative then -size else size, rest)
      else none
  | [] => none

/-- An unsigned number.  A point or exponent that is not complete is left in
the text after it. -/
def unsigned (negative : Bool) (text : Text) : Except ReadError (Value × Text) :=
  match text with
  | [] => .error .malformed
  | first :: others =>
      if !first.isDigit then .error .malformed
      else
        let (whole, rest) := if first = '0' then (['0'], others) else digits text
        let (places, rest) := (fraction? rest).getD ([], rest)
        let (power, hasPower, rest) := match exponent? rest with
          | some (power, rest) => (power, true, rest)
          | none => (0, false, rest)
        if places.isEmpty && !hasPower then
          if Decimal.digitLimit < whole.length then
            .error (.integerTooLong whole.length)
          else
            let number : Int := Text.inBase 10 whole
            .ok (.int (if negative then -number else number), rest)
        else
          let number := Decimal.floatOfDecimal (Text.inBase 10 (whole ++ places))
            (power - places.length)
          .ok (.float (if negative then -number else number), rest)

/-- The fixed words and their values. -/
def words : List (Text × Value) :=
  [("null", .null), ("true", .bool true), ("false", .bool false),
   ("NaN", .float (0 / 0)), ("Infinity", .float (1 / 0)),
   ("-Infinity", .float (-1 / 0))]

/-- A fixed word or a number. -/
def scalar (text : Text) : Except ReadError (Value × Text) :=
  match words.find? (fun word => word.1.isPrefixOf text) with
  | some (word, value) => .ok (value, text.drop word.length)
  | none =>
      match text with
      | '-' :: rest => unsigned true rest
      | _ => unsigned false text

mutual

/-- A value whose first character is at the front of the text. -/
def value : (fuel : Nat) → Text → Except ReadError (Value × Text)
  | 0, _ => .error .malformed
  | fuel + 1, text =>
      match text with
      | '\x22' :: rest => do
          let (found, rest) ← content (rest.length + 1) rest
          .ok (.text found, rest)
      | '[' :: rest =>
          match skipGap rest with
          | ']' :: rest => .ok (.list [], rest)
          | rest => do
              let (found, rest) ← items fuel rest
              .ok (.list found, rest)
      | '\x7b' :: rest =>
          match skipGap rest with
          | '\x7d' :: rest => .ok (.mapping [], rest)
          | rest => do
              let (found, rest) ← members fuel [] rest
              .ok (.mapping found, rest)
      | _ => scalar text

/-- The items of a list, from the first item to the closing bracket. -/
def items : (fuel : Nat) → Text → Except ReadError (List Value × Text)
  | 0, _ => .error .malformed
  | fuel + 1, text => do
      let (item, rest) ← value fuel text
      match skipGap rest with
      | ']' :: rest => .ok ([item], rest)
      | ',' :: rest => do
          let (more, rest) ← items fuel (skipGap rest)
          .ok (item :: more, rest)
      | _ => .error .malformed

/-- The members of a mapping, from the first key to the closing brace. -/
def members : (fuel : Nat) → List (Value × Value) → Text →
    Except ReadError (List (Value × Value) × Text)
  | 0, _, _ => .error .malformed
  | fuel + 1, entries, '\x22' :: rest => do
      let (key, rest) ← content (rest.length + 1) rest
      match skipGap rest with
      | ':' :: rest => do
          let (found, rest) ← value fuel (skipGap rest)
          let entries := Value.put (.text key) found entries
          match skipGap rest with
          | '\x7d' :: rest => .ok (entries, rest)
          | ',' :: rest => members fuel entries (skipGap rest)
          | _ => .error .malformed
      | _ => .error .malformed
  | _, _, _ => .error .malformed

end

/-- Reads a text that holds exactly one value. -/
def parse (text : Text) : Except ReadError Value := do
  let (found, rest) ← value (2 * text.length + 2) (skipGap text)
  if (skipGap rest).isEmpty then .ok found else .error .malformed

end Inquiry.Json
