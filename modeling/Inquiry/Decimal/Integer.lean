import Inquiry.Text.Blank
import Inquiry.Text.Digit

/-!
# Written integers

Integers are written in decimal without leading zeros.  Reading is more
generous: blanks around the number, a sign, single underscores between digits
and the decimal digits of every script are accepted.  Digit sequences beyond a
fixed length are refused, whatever stands after them, and integers that need as
many are not written either.
-/

namespace Inquiry.Decimal

/-- The decimal digits of a natural number. -/
def ofNat (n : Nat) : Text :=
  Nat.toDigits 10 n

/-- The decimal form of an integer, with a minus sign if it is negative. -/
def ofInt : Int → Text
  | .ofNat n => ofNat n
  | .negSucc n => '-' :: ofNat (n + 1)

/-- The number spelled by a sequence of digit values. -/
def spelled (digits : List Nat) : Nat :=
  digits.foldl (fun total digit => 10 * total + digit) 0

/-- The longest digit sequence that is read as a number, or written for one. -/
def digitLimit : Nat := 4300

/-- The decimal form of an integer, unless it has more digits than are
written. -/
def writeInt? (n : Int) : Option Text :=
  if (ofNat n.natAbs).length ≤ digitLimit then some (ofInt n) else none

/-- Why a text is not an integer. -/
inductive IntegerError where
  /-- The text is not of the form of an integer. -/
  | malformed
  /-- The text has more digits than are read. -/
  | tooLong (digits : Nat)
  deriving Repr, DecidableEq

/-- A blank that may stand around a number.  The four information separators
are not among them. -/
def isMargin (c : Char) : Bool :=
  Text.isBlank c && !(28 ≤ c.toNat && c.toNat ≤ 31)

/-- Underscores stand only between two digits; the flag says whether the
preceding character is a digit. -/
def wellSpaced (afterDigit : Bool) : Text → Bool
  | [] => afterDigit
  | c :: rest =>
      if c = '_' then afterDigit && wellSpaced false rest
      else wellSpaced true rest

/-- Reads an unsigned integer followed by nothing but margin. -/
def readNat (text : Text) : Except IntegerError Nat :=
  let run := text.takeWhile fun c => Text.isDecimal c || c == '_'
  let rest := text.dropWhile fun c => Text.isDecimal c || c == '_'
  let digits := run.filterMap Text.digitValue?
  if !wellSpaced false run then .error .malformed
  else if digitLimit < digits.length then .error (.tooLong digits.length)
  else if rest.all isMargin then .ok (spelled digits)
  else .error .malformed

/-- Reads an integer. -/
def readInt (text : Text) : Except IntegerError Int :=
  match text.dropWhile isMargin with
  | '-' :: rest => (readNat rest).map fun n => -(n : Int)
  | '+' :: rest => (readNat rest).map fun n => (n : Int)
  | rest => (readNat rest).map fun n => (n : Int)

/-- One ASCII digit or more, and nothing else. -/
def isPlain (text : Text) : Bool :=
  !text.isEmpty && text.all Text.isAsciiDigit

end Inquiry.Decimal
