import Inquiry.Fault
import Inquiry.Intent
import Inquiry.Text.Case
import Inquiry.Vocabulary.Basic

/-!
# Explanations

An explanation says in one paragraph how a statement was built.  It is derived
from the intent and closes with the trail.
-/

namespace Inquiry

namespace Explanation

/-- The text that labels have to be to take part in a sentence. -/
def spoken (label : Value) : Except Fault Text :=
  match label with
  | .text content => .ok content
  | _ => .error .wrongType

/-- How a date window is named, given its tag. -/
def describeTag (vocabulary : Vocabulary) (tag : Text) : Value :=
  if tag = Tagged.tag DateKind.none then .text "all dates"
  else if tag = Tagged.tag DateKind.custom then
    .text "an unrecognised custom range (no date filter applied)"
  else
    match vocabulary.dateRanges.find? fun rule => Tagged.tag rule.kind == tag with
    | some rule => rule.label
    | none => .text (Text.swap '_' ' ' tag)

/-- How a date window is named. -/
def describe (vocabulary : Vocabulary) (kind : DateKind) : Value :=
  describeTag vocabulary (Tagged.tag kind)

/-- The intent filters, summarises, ranks and limits nothing. -/
def isUnfiltered (intent : Intent) : Bool :=
  intent.department.isNone && intent.dateRange.kind == .none &&
    intent.aggregation.kind == .none && intent.metrics.isEmpty &&
    intent.comparison.kind == .none && intent.limit == 0

/-- The explanation of an intent that asks for everything. -/
def general : Text :=
  "Retrieve all metric records across every department with no filters applied, " ++
    "most recent first."

/-- The first letter becomes a capital. -/
def capitalised (text : Text) : Text :=
  Text.upper (text.take 1) ++ text.drop 1

/-- What is computed. -/
def verbPart (rule : Option AggregationRule) : Except Fault Text :=
  match rule with
  | some rule => (spoken rule.label).map capitalised
  | none => .ok "Retrieve"

/-- The metrics. -/
def metricPart (metrics : List Text) : Text :=
  if metrics.isEmpty then "all metrics" else Text.join ", " metrics ++ " metrics"

/-- The department, or the grouping by it. -/
def departmentPart (department : Option Department) (grouped : Bool) : List Text :=
  match department, grouped with
  | some department, _ => ["for the " ++ Tagged.tag department ++ " department"]
  | none, true => ["per department"]
  | none, false => []

/-- The date window. -/
def datePart (vocabulary : Vocabulary) (kind : DateKind) :
    Except Fault (List Text) :=
  match kind with
  | .none => .ok []
  | .custom => do
      let label ← spoken (describe vocabulary .custom)
      return ["over " ++ label]
  | kind => do
      let label ← spoken (describe vocabulary kind)
      return ["during " ++ label]

/-- The order of the rows. -/
def orderPart (rule : Option AggregationRule) (comparison : Comparison) : Text :=
  match comparison.kind with
  | .none => "ordered most recent first"
  | kind =>
      let rankedBy := match rule with
        | some rule => Text.swap '_' ' ' rule.output
        | none => "metric value"
      let order : Text :=
        if comparison.direction = .descending then "descending" else "ascending"
      "showing the " ++ Tagged.tag kind ++ " results by " ++ rankedBy ++
        " (" ++ order ++ ")"

/-- The row limit, if the trail says that it was written. -/
def limitPart (limited : Bool) (limit : Nat) : List Text :=
  if limited then ["limited to " ++ Decimal.ofNat limit ++ " rows"] else []

/-- The closing sentence. -/
def trailPart (trail : List Text) : Text :=
  "Matched patterns: " ++ Text.join ", " trail ++ "."

end Explanation

open Explanation

/-- Explains how the statement for an intent was built. -/
def explain (vocabulary : Vocabulary) (intent : Intent) (trail : List Text) :
    Except Fault Text :=
  if isUnfiltered intent then .ok (general ++ " " ++ trailPart trail)
  else do
    let rule := vocabulary.aggregation? intent.aggregation.kind
    let verb ← verbPart rule
    let window ← datePart vocabulary intent.dateRange.kind
    let parts :=
      [verb, metricPart intent.metrics] ++
      departmentPart intent.department rule.isSome ++
      window ++
      [orderPart rule intent.comparison] ++
      limitPart (trail.contains "limit_results") intent.limit
    return Text.join " " parts ++ ". " ++ trailPart trail

end Inquiry
