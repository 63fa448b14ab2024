/-!
# Spans of code points

Character classes beyond ASCII are given as lists of intervals.  The lists are
short enough to be searched in order, which keeps membership easy to reason
about.
-/

namespace Inquiry.Text

/-- An interval of code points, both ends included. -/
abbrev Span := Nat × Nat

namespace Span

/-- The code point lies in the interval. -/
def contains (span : Span) (point : Nat) : Bool :=
  span.1 ≤ point && point ≤ span.2

/-- Some interval of the list holds the code point. -/
def covers (spans : List Span) (point : Nat) : Bool :=
  spans.any (·.contains point)

end Span

end Inquiry.Text
