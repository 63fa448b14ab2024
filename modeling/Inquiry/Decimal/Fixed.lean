import Inquiry.Text.Basic
import Inquiry.Decimal.Binary
import Inquiry.Decimal.Integer

/-!
# Fixed number of decimal places

The exact binary value is rounded to the wanted number of places, a half going
to the even neighbour.
-/

namespace Inquiry.Decimal

/-- Writes `units / 10 ^ places` with exactly that many places. -/
def withPlaces (places units : Nat) : Text :=
  let spelling := ofNat units
  let padded := List.replicate (places + 1 - spelling.length) '0' ++ spelling
  let point := padded.length - places
  if places = 0 then padded else padded.take point ++ "." ++ padded.drop point

/-- The number with exactly that many decimal places. -/
def fixed (places : Nat) (x : Float) : Text :=
  let signed (negative : Bool) (text : Text) : Text :=
    if negative then '-' :: text else text
  match Binary.ofFloat x with
  | .undefined => "nan"
  | .infinite negative => signed negative "inf"
  | .finite negative significand exponent =>
      let (above, below) := Binary.fraction significand exponent
      signed negative (withPlaces places (roundedQuotient (above * tenTo places) below))

end Inquiry.Decimal
