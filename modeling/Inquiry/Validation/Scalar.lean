import Inquiry.Validation.Basic
import Inquiry.Decimal.Integer
import Inquiry.Text.Case

/-!
# Validated scalars

Integers may be given as truth values, as floating-point numbers without a
fraction, or as text; truth values as zero and one or as one of a few words.
-/

namespace Inquiry.Validation

/-- A blank that may stand around a written number. -/
def isMargin (c : Char) : Bool :=
  Decimal.isMargin c

/-- Drops a point followed by nothing but zeros. -/
def dropZeroPlaces (text : Text) : Text :=
  match Text.cut? '.' text with
  | some (whole, places) => if places.all (· == '0') then whole else text
  | none => text

/-- Reads an unsigned integer of ASCII digits with single underscores between
them, and possibly a tail of zero places. -/
def unsignedText (text : Text) : Checked Nat :=
  let whole := dropZeroPlaces text
  let digits := whole.filter (· != '_')
  if !Decimal.wellSpaced false whole || !digits.all Char.isDigit then
    .fail .unreadableInteger
  else if Decimal.digitLimit < digits.length then .fail .oversizedInteger
  else .ok (Decimal.spelled (digits.map fun c => c.toNat - 48))

/-- Reads an integer from a text. -/
def integerText (text : Text) : Checked Int :=
  let bare := ((text.dropWhile isMargin).reverse.dropWhile isMargin).reverse
  match bare with
  | '-' :: rest => (unsignedText rest).map fun n => -(n : Int)
  | '+' :: rest => (unsignedText rest).map fun n => (n : Int)
  | rest => (unsignedText rest).map fun n => (n : Int)

/-- The first integer beyond the 64-bit range. -/
def wordBound : Int := 9223372036854775808

/-- The integer of a floating-point number inside the 64-bit range. -/
def integerFloat (number : Float) : Checked Int :=
  match Decimal.Binary.ofFloat number with
  | .finite negative significand exponent =>
      match (Decimal.Binary.finite negative significand exponent).whole? with
      | none => .fail .fractional
      | some whole =>
          if -wordBound < whole ∧ whole < wordBound then .ok whole
          else .fail .oversizedInteger
  | _ => .fail .notFinite

/-- Reads an integer. -/
def integer : Value → Checked Int
  | .bool truth => .ok (if truth then 1 else 0)
  | .int number => .ok number
  | .float number => integerFloat number
  | .text content => integerText content
  | _ => .fail .notInteger

/-- Reads an integer that is not negative. -/
def natural (value : Value) : Checked Nat :=
  match integer value with
  | .error issues => .error issues
  | .ok (.ofNat number) => .ok number
  | .ok (.negSucc _) => .fail .negative

/-- The words for true. -/
def affirmative : List Text :=
  ["1", "t", "y", "on", "yes", "true"]

/-- The words for false. -/
def denying : List Text :=
  ["0", "f", "n", "off", "no", "false"]

/-- A whole number as a truth value. -/
def truthOfWhole (number : Int) : Checked Bool :=
  if number = 0 then .ok false
  else if number = 1 then .ok true
  else .fail .unreadableTruth

/-- Reads a truth value.  The case of a word does not matter, blanks do. -/
def truth : Value → Checked Bool
  | .bool truth => .ok truth
  | .int number =>
      if -wordBound ≤ number ∧ number < wordBound then truthOfWhole number
      else .fail .notTruth
  | .float number =>
      match integerFloat number with
      | .ok whole => truthOfWhole whole
      | .error _ => .fail .notTruth
  | .text content =>
      let word := content.map Char.toLower
      if affirmative.contains word then .ok true
      else if denying.contains word then .ok false
      else .fail .unreadableTruth
  | _ => .fail .notTruth

end Inquiry.Validation
