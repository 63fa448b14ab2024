import Inquiry.Tag

/-!
# Kinds

The closed sets that questions, vocabularies and answers are classified by.
-/

namespace Inquiry

/-- The departments that metrics belong to. -/
inductive Department where
  | sales | finance | devrel | hr | events | compliance
  deriving Repr, DecidableEq

instance : Tagged Department where
  all := [.sales, .finance, .devrel, .hr, .events, .compliance]
  tag
    | .sales => "sales"
    | .finance => "finance"
    | .devrel => "devrel"
    | .hr => "hr"
    | .events => "events"
    | .compliance => "compliance"

/-- The date windows a question may name. -/
inductive DateKind where
  | none | q1 | q2 | q3 | q4 | lastMonth | thisMonth | thisYear
  /-- A window that no rule recognises; it filters nothing. -/
  | custom
  deriving Repr, DecidableEq

instance : Tagged DateKind where
  all := [.none, .q1, .q2, .q3, .q4, .lastMonth, .thisMonth, .thisYear, .custom]
  tag
    | .none => "none"
    | .q1 => "q1"
    | .q2 => "q2"
    | .q3 => "q3"
    | .q4 => "q4"
    | .lastMonth => "last_month"
    | .thisMonth => "this_month"
    | .thisYear => "this_year"
    | .custom => "custom"

/-- The ways of summarising a metric. -/
inductive AggregationKind where
  | none | sum | avg | count | growth
  deriving Repr, DecidableEq

instance : Tagged AggregationKind where
  all := [.none, .sum, .avg, .count, .growth]
  tag
    | .none => "none"
    | .sum => "sum"
    | .avg => "avg"
    | .count => "count"
    | .growth => "growth"

/-- The rankings a question may ask for. -/
inductive ComparisonKind where
  | none | top | bottom
  deriving Repr, DecidableEq

instance : Tagged ComparisonKind where
  all := [.none, .top, .bottom]
  tag
    | .none => "none"
    | .top => "top"
    | .bottom => "bottom"

/-- The order of the rows; none where no ranking is asked for. -/
inductive SortDirection where
  | unsorted | ascending | descending
  deriving Repr, DecidableEq

instance : Tagged SortDirection where
  all := [.unsorted, .ascending, .descending]
  tag
    | .unsorted => ""
    | .ascending => "ASC"
    | .descending => "DESC"

/-- The aggregate functions that a rule may call. -/
inductive AggregateFunction where
  | sum | avg | count | min | max
  deriving Repr, DecidableEq

instance : Tagged AggregateFunction where
  all := [.sum, .avg, .count, .min, .max]
  tag
    | .sum => "SUM"
    | .avg => "AVG"
    | .count => "COUNT"
    | .min => "MIN"
    | .max => "MAX"

/-- How a statement marks the places of its parameters: numbered from `$1`, or
by question marks. -/
inductive ParamStyle where
  | dollar | qmark
  deriving Repr, DecidableEq

instance : Tagged ParamStyle where
  all := [.dollar, .qmark]
  tag
    | .dollar => "dollar"
    | .qmark => "qmark"

end Inquiry
