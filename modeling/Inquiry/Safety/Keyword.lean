import Inquiry.Text.Blank
import Inquiry.Text.Word

/-!
# Keywords in statements

Keywords are recognised at a position of a text: they start where no word is
under way, and most of them have to end where a word ends.  Case does not
matter, and four letters beyond ASCII count as cases of `i`, `k` and `s`.
-/

namespace Inquiry.Safety

/-- The character is a case of a capital letter of a keyword. -/
def isCaseOf (letter c : Char) : Bool :=
  c.toUpper == letter ||
    (letter == 'I' && (c == '\u0130' || c == '\u0131')) ||
    (letter == 'K' && c == '\u212a') ||
    (letter == 'S' && c == '\u017f')

/-- A keyword, given in capitals, at the front of a text: how it is spelled
there, and what follows it. -/
def spelled? : (keyword : Text) → Text → Option (Text × Text)
  | [], text => some ([], text)
  | _ :: _, [] => none
  | letter :: keyword, c :: text =>
      if isCaseOf letter c then
        (spelled? keyword text).map fun (found, rest) => (c :: found, rest)
      else none

/-- One blank or more at the front of a text, and what follows them. -/
def blanks? (text : Text) : Option (Text × Text) :=
  let blanks := text.takeWhile Text.isBlank
  if blanks.isEmpty then none else some (blanks, text.dropWhile Text.isBlank)

/-- Several keywords with blanks between them. -/
def phrase? : List Text → Text → Option (Text × Text)
  | [], text => some ([], text)
  | [keyword], text => spelled? keyword text
  | keyword :: more, text => do
      let (first, rest) ← spelled? keyword text
      let (blanks, rest) ← blanks? rest
      let (others, rest) ← phrase? more rest
      some (first ++ blanks ++ others, rest)

/-- No word is under way before a position. -/
def startsWord (previous : Option Char) : Bool :=
  !previous.any Text.isWord

/-- No word goes on after a position. -/
def endsWord (rest : Text) : Bool :=
  !rest.head?.any Text.isWord

/-- The first finding of a probe, which sees the character before each position
and the text after it. -/
def firstAt {α : Type} (probe : Option Char → Text → Option α)
    (previous : Option Char) : Text → Option α
  | [] => probe previous []
  | c :: rest =>
      (probe previous (c :: rest)).orElse fun _ => firstAt probe (some c) rest

/-- The first finding of a probe in a text. -/
def find? {α : Type} (probe : Option Char → Text → Option α) (text : Text) :
    Option α :=
  firstAt probe none text

end Inquiry.Safety
