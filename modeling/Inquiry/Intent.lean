import Inquiry.Kind
import Inquiry.Validation.Scalar

/-!
# Intents

An intent is what a question asks for: a department, a date window, a way of
summarising, the metrics, a ranking and a row limit.  It may be extracted from
a question or read, with validation, from a mapping.
-/

namespace Inquiry

/-- A date window and the condition on the metric date that selects it. -/
structure DateRange where
  kind : DateKind := .none
  predicate : Text := []
  boundParams : List Text := []
  deriving Repr, DecidableEq

/-- A way of summarising a metric. -/
structure Aggregation where
  kind : AggregationKind := .none
  sqlFunction : Text := []
  deriving Repr, DecidableEq

/-- A ranking of the rows. -/
structure Comparison where
  kind : ComparisonKind := .none
  direction : SortDirection := .unsorted
  deriving Repr, DecidableEq

/-- What a question asks for. -/
structure Intent where
  department : Option Department := none
  dateRange : DateRange := {}
  aggregation : Aggregation := {}
  /-- Metric names; the same name may occur several times. -/
  metrics : List Text := []
  comparison : Comparison := {}
  /-- The most rows to return; zero means no limit. -/
  limit : Nat := 0
  deriving Repr, DecidableEq

open Validation

/-- Reads a date window. -/
def DateRange.read (entries : List (Value × Value)) : Checked DateRange :=
  Checked.start DateRange.mk
    |>.apply (field entries "kind" (some .none) (tagged DateKind))
    |>.apply (field entries "predicate" (some []) text)
    |>.apply (field entries "bound_params" (some []) texts)

/-- Reads a way of summarising. -/
def Aggregation.read (entries : List (Value × Value)) : Checked Aggregation :=
  Checked.start Aggregation.mk
    |>.apply (field entries "kind" (some .none) (tagged AggregationKind))
    |>.apply (field entries "sql_function" (some []) text)

/-- Reads a ranking. -/
def Comparison.read (entries : List (Value × Value)) : Checked Comparison :=
  Checked.start Comparison.mk
    |>.apply (field entries "kind" (some .none) (tagged ComparisonKind))
    |>.apply (field entries "sort_direction" (some .unsorted) (tagged SortDirection))

/-- Reads an intent. -/
def Intent.read (entries : List (Value × Value)) : Checked Intent :=
  Checked.start Intent.mk
    |>.apply (field entries "department" (some none) (nullable (tagged Department)))
    |>.apply (field entries "date_range" (some {}) (nested "DateRange" DateRange.read))
    |>.apply (field entries "aggregation" (some {}) (nested "Aggregation" Aggregation.read))
    |>.apply (field entries "metrics" (some []) texts)
    |>.apply (field entries "comparison" (some {}) (nested "Comparison" Comparison.read))
    |>.apply (field entries "limit" (some 0) natural)

end Inquiry
