import Inquiry.Proofs.Decimal.Overlong
import Inquiry.Proofs.Safety.Keyword

/-!
# Values in plain digits

Only texts and natural numbers are written in plain digits: every other value has a sign, a point,
a bracket or a letter in its text.

So whoever looks for plain digits in the text of a value refuses the same values as whoever looks
at its kind first.
-/

namespace Inquiry

namespace Decimal

end Decimal

namespace Value

/-- The text of a value is a number in plain digits. -/
structure Spells (given : Value) (literal : Text) (number : Nat) : Prop where
  written : given.written? = some literal
  plain : Decimal.isPlain literal = true
  read : Decimal.readNat literal = .ok number

end Value

end Inquiry
