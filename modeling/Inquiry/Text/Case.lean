import Inquiry.Text.Basic
import Inquiry.Text.CaseTable

/-!
# Small and capital letters

Case changes act on whole texts: one letter may become several, and the Greek
sigma takes its final form at the end of a word.
-/

namespace Inquiry.Text

/-- The image of a code point beyond ASCII under a case table. -/
def shifted (expansions : List (Nat × List Nat)) (shifts : List Shift)
    (c : Char) : Text :=
  match expansions.lookup c.toNat with
  | some points => points.map Char.ofNat
  | none =>
      match shifts.findSome? (·.shifted? c.toNat) with
      | some point => [Char.ofNat point]
      | none => [c]

/-- The small form of a character outside any context. -/
def lowerChar (c : Char) : Text :=
  if c.toNat < 128 then [c.toLower] else shifted lowerExpansions lowerShifts c

/-- The capital form of a character. -/
def upperChar (c : Char) : Text :=
  if c.toNat < 128 then [c.toUpper] else shifted upperExpansions upperShifts c

/-- The word-final test passes over this character. -/
def isCaseIgnorable (c : Char) : Bool :=
  Span.covers caseIgnorableSpans c.toNat

/-- A letter that has case, apart from those passed over. -/
def isCased (c : Char) : Bool :=
  Span.covers casedSpans c.toNat

/-- The first character that counts for the word-final test has case. -/
def meetsCased (text : Text) : Bool :=
  match text.find? (fun c => !isCaseIgnorable c) with
  | some c => isCased c
  | none => false

/-- The small form of a text whose preceding characters are given in reverse.
A capital sigma ends a word when a letter stands before it and none after. -/
def lowerFrom (before : Text) : Text → Text
  | [] => []
  | c :: rest =>
      let small :=
        if c = 'Σ' then
          if meetsCased before && !meetsCased rest then ['ς'] else ['σ']
        else lowerChar c
      small ++ lowerFrom (c :: before) rest

/-- The small form of a text. -/
def lower (text : Text) : Text :=
  lowerFrom [] text

/-- The capital form of a text. -/
def upper (text : Text) : Text :=
  text.flatMap upperChar

end Inquiry.Text
