/-!
# Binary floating point

A finite number is a sign, a natural significand and a power of two.  Exact
decimal work is done on this form with natural numbers; floating-point
arithmetic itself is used only where the result is meant to be rounded.
-/

namespace Inquiry.Decimal

/-- A power of two. -/
def twoTo (exponent : Nat) : Nat :=
  Nat.pow 2 exponent

/-- A power of ten. -/
def tenTo (exponent : Nat) : Nat :=
  Nat.pow 10 exponent

/-- A floating-point number taken apart. -/
inductive Binary where
  /-- The number `±significand * 2 ^ exponent`. -/
  | finite (negative : Bool) (significand : Nat) (exponent : Int)
  | infinite (negative : Bool)
  | undefined
  deriving Repr, DecidableEq

namespace Binary

/-- Takes a number apart into sign, significand and exponent. -/
def ofFloat (x : Float) : Binary :=
  let bits := x.toBits.toNat
  let negative := decide (twoTo 63 ≤ bits)
  let biased : Nat := bits / twoTo 52 % twoTo 11
  let trailing : Nat := bits % twoTo 52
  if biased = 2047 then
    if trailing = 0 then .infinite negative else .undefined
  else if biased = 0 then .finite negative trailing (-1074)
  else .finite negative (twoTo 52 + trailing) ((biased : Int) - 1075)

/-- The numerator and denominator of `significand * 2 ^ exponent`. -/
def fraction (significand : Nat) (exponent : Int) : Nat × Nat :=
  if 0 ≤ exponent then (significand * twoTo exponent.toNat, 1)
  else (significand, twoTo (-exponent).toNat)

/-- The integer that a number equals, if it has no fractional part. -/
def whole? : Binary → Option Int
  | .finite negative significand exponent =>
      let (above, below) := fraction significand exponent
      if above % below = 0 then
        some (if negative then -((above / below : Nat) : Int)
          else ((above / below : Nat) : Int))
      else none
  | _ => none

/-- The integer part of a number, toward zero. -/
def truncated? : Binary → Option Int
  | .finite negative significand exponent =>
      let (above, below) := fraction significand exponent
      some (if negative then -((above / below : Nat) : Int)
        else ((above / below : Nat) : Int))
  | _ => none

end Binary

/-- The quotient rounded to the nearest natural number, a half to the even
neighbour. -/
def roundedQuotient (above below : Nat) : Nat :=
  let quotient := above / below
  let rest := above % below
  if below < 2 * rest then quotient + 1
  else if 2 * rest = below then quotient + quotient % 2
  else quotient

/-- The floating-point number nearest to a quotient, a half to the even
neighbour. -/
def nearestFloat (above below : Nat) : Float :=
  if above = 0 then 0
  else
    -- The quotient scaled by `2 ^ (-exponent)` has 53 or 54 binary digits.
    let exponent : Int := (above.log2 : Int) - below.log2 - 53
    let scaled (exponent : Int) : Nat × Nat :=
      if 0 ≤ exponent then (above, below * twoTo exponent.toNat)
      else (above * twoTo (-exponent).toNat, below)
    let (top, bottom) := scaled exponent
    let exponent := if twoTo 53 ≤ top / bottom then exponent + 1 else exponent
    let exponent := max exponent (-1074)
    let (top, bottom) := scaled exponent
    (Float.ofNat (roundedQuotient top bottom)).scaleB exponent

/-- The floating-point number nearest to `digits * 10 ^ power`.  Powers far
outside the range of the format are settled without computing them. -/
def floatOfDecimal (digits : Nat) (power : Int) : Float :=
  let leading := power + (Nat.toDigits 10 digits).length
  if digits = 0 ∨ leading < -400 then 0
  else if 400 < leading then 1 / 0
  else if 0 ≤ power then nearestFloat (digits * tenTo power.toNat) 1
  else nearestFloat digits (tenTo (-power).toNat)

end Inquiry.Decimal
