import Inquiry.Text.Basic
import Inquiry.Decimal.Binary
import Inquiry.Decimal.Integer

/-!
# Shortest decimal form

A floating-point number is written with the fewest decimal digits that read
back as the same number; of several such spellings the nearest is taken.  All
comparisons are exact, in natural numbers.

Numbers from `0.0001` up to below `10 ^ 16` are written positionally and keep a
point with at least one digit after it; others carry a signed exponent of two
digits or more.
-/

namespace Inquiry.Decimal

/-- The numbers that round to a given one: `value`, and the ends `low` and
`high`, all over the denominator `below`.  The ends belong to it when
`closed`. -/
structure Basin where
  value : Nat
  low : Nat
  high : Nat
  below : Nat
  closed : Bool

/-- The basin of `significand * 2 ^ exponent`.  Just above a power of two the
lower neighbour is nearer than the upper one. -/
def Basin.of (significand : Nat) (exponent : Int) : Basin :=
  let narrow := significand = twoTo 52 ∧ -1074 < exponent
  let scale := Binary.fraction 1 (exponent - 2)
  { value := 4 * significand * scale.1
    low := (4 * significand - if narrow then 1 else 2) * scale.1
    high := (4 * significand + 2) * scale.1
    below := scale.2
    closed := significand % 2 = 0 }

/-- Whether `count * 10 ^ power` lies in the basin. -/
def Basin.holds (basin : Basin) (count : Nat) (power : Int) : Bool :=
  let grid := if 0 ≤ power then tenTo power.toNat else 1
  let scale := if 0 ≤ power then 1 else tenTo (-power).toNat
  let point := count * grid * basin.below
  if basin.closed then basin.low * scale ≤ point && point ≤ basin.high * scale
  else basin.low * scale < point && point < basin.high * scale

/-- The two multiples of `10 ^ power` around the value, and whether the upper
one is nearer; a tie goes to the even one. -/
def Basin.neighbours (basin : Basin) (power : Int) : Nat × Nat × Bool :=
  let above := if 0 ≤ power then basin.value else basin.value * tenTo (-power).toNat
  let below := if 0 ≤ power then basin.below * tenTo power.toNat else basin.below
  let lower := above / below
  let rest := above % below
  (lower, lower + 1, below < 2 * rest || (2 * rest == below && lower % 2 == 1))

/-- The exponent of the leading decimal digit of a quotient. -/
def leadingPower (above below : Nat) : Int :=
  if below ≤ above then ((ofNat (above / below)).length : Int) - 1
  else
    -- `above * 10 ^ shift` is the first multiple to reach `below`.
    let guess := (ofNat (below / above)).length - 1
    if below ≤ above * tenTo guess then -(guess : Int) else -(guess : Int) - 1

/-- The shortest digits at or after a given length: the digits as a number and
the power of ten of the last one. -/
def Basin.digits (basin : Basin) (leading : Int) : (tries length : Nat) → Nat × Int
  | 0, length => ((basin.neighbours (leading - length + 1)).1, leading - length + 1)
  | tries + 1, length =>
      let power := leading - length + 1
      let (lower, upper, upperNearer) := basin.neighbours power
      match basin.holds lower power, basin.holds upper power with
      | true, true => (if upperNearer then upper else lower, power)
      | true, false => (lower, power)
      | false, true => (upper, power)
      | false, false => basin.digits leading tries (length + 1)

/-- Drops trailing zeros and raises the power of ten to match. -/
def trimZeros : (fuel : Nat) → Nat → Int → Nat × Int
  | 0, digits, power => (digits, power)
  | fuel + 1, digits, power =>
      if digits % 10 = 0 ∧ digits ≠ 0 then
        trimZeros fuel (digits / 10) (power + 1)
      else (digits, power)

/-- Lays out the digits of `digits * 10 ^ power`. -/
def layOut (digits : Nat) (power : Int) : Text :=
  let spelling := ofNat digits
  let leading := power + spelling.length - 1
  if -4 ≤ leading ∧ leading < 16 then
    if 0 ≤ power then
      spelling ++ List.replicate power.toNat '0' ++ ".0"
    else if 0 ≤ leading then
      spelling.take (leading.toNat + 1) ++ "." ++ spelling.drop (leading.toNat + 1)
    else
      "0." ++ List.replicate ((-leading).toNat - 1) '0' ++ spelling
  else
    let mantissa := match spelling with
      | first :: second :: rest => first :: '.' :: second :: rest
      | short => short
    let size := ofNat leading.natAbs
    mantissa ++ "e" ++ (if leading < 0 then "-" else "+") ++
      List.replicate (2 - size.length) '0' ++ size

/-- The shortest decimal text that reads back as the number. -/
def ofFloat (x : Float) : Text :=
  let signed (negative : Bool) (text : Text) : Text :=
    if negative then '-' :: text else text
  match Binary.ofFloat x with
  | .undefined => "nan"
  | .infinite negative => signed negative "inf"
  | .finite negative 0 _ => signed negative "0.0"
  | .finite negative significand exponent =>
      let basin := Basin.of significand exponent
      let leading := leadingPower basin.value basin.below
      let (digits, power) := basin.digits leading 17 1
      let (digits, power) := trimZeros 17 digits power
      signed negative (layOut digits power)

end Inquiry.Decimal
