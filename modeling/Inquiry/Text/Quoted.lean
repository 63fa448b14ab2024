import Inquiry.Text.Basic
import Inquiry.Text.Printable

/-!
# Quoted text

Texts inside messages are quoted with apostrophes, or with double quotes when
they hold an apostrophe and no double quote.  The backslash, the quote in use
and everything unprintable are escaped.
-/

namespace Inquiry.Text

/-- The last `width` hexadecimal digits of a number, in small letters. -/
def hexDigits (width n : Nat) : Text :=
  let digits := Nat.toDigits 16 n
  List.replicate (width - digits.length) '0' ++ digits

/-- One character as it stands between the given quotes. -/
def escaped (quote c : Char) : Text :=
  if c = quote ∨ c = '\\' then ['\\', c]
  else if c = '\n' then "\\n"
  else if c = '\r' then "\\r"
  else if c = '\t' then "\\t"
  else if isPrintable c then [c]
  else if c.toNat < 0x100 then "\\x" ++ hexDigits 2 c.toNat
  else if c.toNat < 0x10000 then "\\u" ++ hexDigits 4 c.toNat
  else "\\U" ++ hexDigits 8 c.toNat

/-- The quotes that a text is written between. -/
def quoteFor (text : Text) : Char :=
  if text.contains '\x27' && !text.contains '\x22' then '\x22' else '\x27'

/-- The text between quotes, with escapes where they are needed. -/
def quoted (text : Text) : Text :=
  let quote := quoteFor text
  quote :: text.flatMap (escaped quote) ++ [quote]

/-- The texts of a list between brackets, each of them quoted. -/
def quotedList (texts : List Text) : Text :=
  "[" ++ join ", " (texts.map quoted) ++ "]"

end Inquiry.Text
