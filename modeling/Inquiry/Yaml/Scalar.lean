import Inquiry.Decimal.Integer
import Inquiry.Value.Basic

/-!
# The meaning of YAML scalars

A plain scalar is null, a truth value or a number if it is written like one, and
otherwise a text.  Numbers may be written in several bases and with underscores
between digits; with colons they count in sixties.  A number with a point is a
floating-point number, and an exponent needs both a point and a sign.

A plain date is taken for a text, and a tag that asks for a date, a set or bytes
is refused.
-/

namespace Inquiry.Yaml

/-- Why a text is refused. -/
inductive ReadError where
  | malformed
  /-- The digits after the mark of a base are missing or no digits. -/
  | malformedInteger (base : Nat) (given : Text)
  /-- An integer has more digits than are read. -/
  | integerTooLong (digits : Nat)
  deriving Repr, DecidableEq

/-- What a scalar is taken for. -/
inductive ScalarKind where
  | null
  | truth
  | integer
  | float
  | text
  /-- As a key, takes over the entries of other mappings. -/
  | merge
  /-- The sign for a default value, which only a key may be. -/
  | default
  deriving Repr, DecidableEq

/-- Whether a number is negative, and the number without its sign. -/
def signed : Text → Bool × Text
  | '-' :: rest => (true, rest)
  | '+' :: rest => (false, rest)
  | text => (false, text)

/-- A digit or a mark between digits. -/
def isSpacedDigit (c : Char) : Bool :=
  c.isDigit || c == '_'

/-- Begins with a digit and goes on with digits and marks between them. -/
def isSpacedNumber : Text → Bool
  | [] => false
  | c :: rest => c.isDigit && rest.all isSpacedDigit

/-- Digits of a base and marks between them. -/
def isDigitRun (isDigit : Char → Bool) (text : Text) : Bool :=
  !text.isEmpty && text.all fun c => isDigit c || c == '_'

/-- A number below sixty of one or two digits. -/
def isSixtieth : Text → Bool
  | [digit] => digit.isDigit
  | [tens, digit] => '0' ≤ tens && tens ≤ '5' && digit.isDigit
  | _ => false

/-- A number followed by at least one part that counts in sixties. -/
def isSexagesimal (text : Text) : Bool :=
  match Text.pieces ':' text with
  | whole :: parts => isSpacedNumber whole && !parts.isEmpty && parts.all isSixtieth
  | [] => false

/-- Nothing, or an exponent with its sign. -/
def isExponent : Text → Bool
  | [] => true
  | mark :: sign :: digits =>
      (mark == 'e' || mark == 'E') && (sign == '-' || sign == '+') &&
        !digits.isEmpty && digits.all Char.isDigit
  | _ => false

/-- Decimal places, possibly with an exponent. -/
def isPlaces (text : Text) : Bool :=
  isExponent (text.dropWhile isSpacedDigit)

/-- The words for infinity, after the sign. -/
def infinityWords : List Text := [".inf", ".Inf", ".INF"]

/-- The words for the undefined number. -/
def undefinedWords : List Text := [".nan", ".NaN", ".NAN"]

/-- Written like a floating-point number. -/
def isFloat (content : Text) : Bool :=
  let bare := (signed content).2
  infinityWords.contains bare || undefinedWords.contains content ||
    match Text.cut? '.' bare with
    | none => false
    | some (whole, places) =>
        (isSpacedNumber whole && isPlaces places) ||
        (whole.isEmpty && content.head? == some '.' &&
          places.head?.any Char.isDigit && isPlaces places) ||
        (isSexagesimal whole && places.all isSpacedDigit)

/-- The ways in which an integer may be written, without its sign. -/
inductive IntegerForm where
  | based (base : Nat) (digits : Text)
  | sexagesimal (parts : List Text)
  deriving Repr, DecidableEq

/-- The form in which an unsigned integer is written. -/
def integerForm? : Text → Option IntegerForm
  | ['0'] => some (.based 10 ['0'])
  | '0' :: 'b' :: digits =>
      if isDigitRun (fun c => c == '0' || c == '1') digits then some (.based 2 digits)
      else none
  | '0' :: 'x' :: digits =>
      if isDigitRun (fun c => (Text.hexDigit? c).isSome) digits then
        some (.based 16 digits)
      else none
  | '0' :: digits =>
      if isDigitRun (fun c => '0' ≤ c && c ≤ '7') digits then
        some (.based 8 ('0' :: digits))
      else none
  | text =>
      if isSpacedNumber text then some (.based 10 text)
      else if isSexagesimal text then some (.sexagesimal (Text.pieces ':' text))
      else none

/-- The words for null. -/
def nullWords : List Text := [[], "~", "null", "Null", "NULL"]

/-- The words for true. -/
def trueWords : List Text :=
  ["yes", "Yes", "YES", "true", "True", "TRUE", "on", "On", "ON"]

/-- The words for false. -/
def falseWords : List Text :=
  ["no", "No", "NO", "false", "False", "FALSE", "off", "Off", "OFF"]

/-- The key that takes over the entries of other mappings. -/
def mergeWord : Text := "<<"

/-- The sign for a default value. -/
def defaultWord : Text := "="

namespace ScalarKind

/-- What a plain scalar is taken for. -/
def ofPlain (content : Text) : ScalarKind :=
  if trueWords.contains content || falseWords.contains content then truth
  else if isFloat content then float
  else if (integerForm? (signed content).2).isSome then integer
  else if content = mergeWord then merge
  else if nullWords.contains content then null
  else if content = defaultWord then default
  else text

/-- What the beginning of all standard tags is. -/
def standard : Text := "tag:yaml.org,2002:"

/-- The kinds that standard tags name. -/
def tags : List (Text × ScalarKind) :=
  [("null", null), ("bool", truth), ("int", integer), ("float", float),
   ("str", text), ("merge", merge), ("value", default)]

/-- The kind that a tag names. -/
def ofTag? (tag : Text) : Option ScalarKind :=
  if standard.isPrefixOf tag then tags.lookup (tag.drop standard.length) else none

end ScalarKind

/-- The number that digits with marks between them spell in a base. -/
def basedNumber (base : Nat) (digits : Text) : Except ReadError Nat :=
  let digits := digits.filter (· != '_')
  if digits.isEmpty then .error (.malformedInteger base digits)
  else if base = 10 ∧ Decimal.digitLimit < digits.length then
    .error (.integerTooLong digits.length)
  else .ok (Text.inBase base digits)

/-- The integer that a form denotes. -/
def IntegerForm.number : IntegerForm → Except ReadError Nat
  | based base digits => basedNumber base digits
  | sexagesimal parts => do
      let numbers ← parts.mapM (basedNumber 10)
      return numbers.foldl (fun total number => 60 * total + number) 0

/-- The integer that is written. -/
def integer (content : Text) : Except ReadError Int :=
  let (negative, bare) := signed content
  match integerForm? bare with
  | none => .error (.malformedInteger 10 bare)
  | some form => form.number.map fun number => if negative then -(number : Int) else number

/-- The floating-point number that digits with a point and perhaps an exponent
spell. -/
def pointed (text : Text) : Float :=
  let whole := text.takeWhile Char.isDigit
  let after := (text.dropWhile Char.isDigit).drop 1
  let places := after.takeWhile Char.isDigit
  let (negative, power) := signed ((after.dropWhile Char.isDigit).drop 1)
  let size : Int := Text.inBase 10 power
  Decimal.floatOfDecimal (Text.inBase 10 (whole ++ places))
    ((if negative then -size else size) - places.length)

/-- The floating-point number whose parts count in sixties, the last part
first. -/
def sixtieths : (unit : Nat) → (total : Float) → List Text → Float
  | _, total, [] => total
  | unit, total, part :: rest =>
      sixtieths (60 * unit) (total + pointed part * Decimal.nearestFloat unit 1) rest

/-- The floating-point number that is written. -/
def float (content : Text) : Float :=
  let (negative, bare) := signed (content.filter (· != '_'))
  let size : Float :=
    if undefinedWords.contains bare then 0 / 0
    else if infinityWords.contains bare then 1 / 0
    else if bare.contains ':' then sixtieths 1 0 (Text.pieces ':' bare).reverse
    else pointed bare
  if negative then -size else size

/-- The value of a scalar of a kind. -/
def ScalarKind.read (content : Text) : ScalarKind → Except ReadError Value
  | null => .ok .null
  | truth =>
      if trueWords.contains content then .ok (.bool true)
      else if falseWords.contains content then .ok (.bool false)
      else .error .malformed
  | integer => (Yaml.integer content).map .int
  | float => if isFloat content then .ok (.float (Yaml.float content)) else .error .malformed
  | text => .ok (.text content)
  | merge | default => .error .malformed

end Inquiry.Yaml
