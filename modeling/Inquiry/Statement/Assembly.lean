import Inquiry.Fault
import Inquiry.Intent
import Inquiry.Statement.Basic

/-!
# Assembly

An intent is turned into a statement.  Each decision that shapes the statement
leaves a mark, and the marks in order make the trail of the compilation.

A row limit is written only if it lies between one and the maximum of the
vocabulary.
-/

namespace Inquiry

/-- A decision that shaped a statement. -/
inductive Mark where
  | basicSelection
  | aggregation (kind : AggregationKind)
  | departmentFilter
  | dateFilter (kind : DateKind)
  | metricFilter
  | comparison (kind : ComparisonKind)
  | limitResults
  deriving Repr, DecidableEq

/-- The name of a mark. -/
def Mark.tag : Mark → Text
  | basicSelection => "basic_selection"
  | aggregation kind => "aggregation_" ++ Tagged.tag kind
  | departmentFilter => "department_filter"
  | dateFilter kind => "date_filter_" ++ Tagged.tag kind
  | metricFilter => "metric_filter"
  | comparison kind => "comparison_" ++ Tagged.tag kind
  | limitResults => "limit_results"

/-- A row limit that may be written: at least one and at most the maximum. -/
def writtenLimit? (limit maximum : Nat) : Option Nat :=
  if limit = 0 ∨ maximum < limit then none else some limit

/-- The text of a given row limit, or nothing if it must not be written.  Only
plain digits are written, and they are written as given. -/
def renderLimit (given : Value) (maximum : Int) : Except Fault (Option Text) :=
  match given.written? with
  | none => .error .unwritableInteger
  | some literal =>
      if !Decimal.isPlain literal then .ok none
      else
        match Decimal.readNat literal with
        | .error error => .error (.ofIntegerError literal error)
        | .ok number =>
            .ok (if number = 0 ∨ maximum < number then none else some literal)

namespace Intent

/-- The select list.  Under a department filter the department is not a group
key; it has one value, which its minimum projects. -/
def selectItems (contract : SchemaContract) (rule : Option AggregationRule)
    (filtered : Bool) : List SelectItem :=
  let fact := contract.fact
  let name := contract.dimension.column contract.dimension.name
  match rule with
  | none =>
      [{ expression := .column name, output := some "department" },
       { expression := .column (fact.column fact.metricName) },
       { expression := .column (fact.column fact.metricValue) },
       { expression := .column (fact.column fact.metricDate) }]
  | some rule =>
      [{ expression := if filtered then .call "MIN" name else .column name
         output := some "department" },
       { expression := .column (fact.column fact.metricName) },
       { expression := .call (Tagged.tag rule.function) rule.column
         output := some rule.output }]

/-- The conditions: the department, the date window and the metrics. -/
def conditions (contract : SchemaContract) (intent : Intent) : List Condition :=
  let dimension := contract.dimension
  (intent.department.map fun department =>
    Condition.equals (dimension.column dimension.code) (Tagged.tag department)).toList ++
  (if intent.dateRange.predicate.isEmpty then []
    else [.given intent.dateRange.predicate intent.dateRange.boundParams]) ++
  (if intent.metrics.isEmpty then []
    else [.among (contract.fact.column contract.fact.metricName) intent.metrics])

/-- The columns that an aggregate is grouped by. -/
def groupKeys (contract : SchemaContract) (rule : Option AggregationRule)
    (filtered : Bool) : List Text :=
  let metric := contract.fact.column contract.fact.metricName
  match rule, filtered with
  | none, _ => []
  | some _, true => [metric]
  | some _, false => [contract.dimension.column contract.dimension.name, metric]

/-- What the rows are ordered by: the ranked value, or else the date. -/
def orderKey (contract : SchemaContract) (rule : Option AggregationRule)
    (comparison : Comparison) : Expression :=
  let fact := contract.fact
  match comparison.kind, rule with
  | .none, none => .column (fact.column fact.metricDate)
  | .none, some _ => .call "MAX" (fact.column fact.metricDate)
  | _, none => .column (fact.column fact.metricValue)
  | _, some rule => .column rule.output

/-- The direction of the order; the most recent rows come first where nothing is
ranked. -/
def direction (comparison : Comparison) : SortDirection :=
  match comparison.kind with
  | .none => .descending
  | _ => comparison.direction

/-- The statement that answers an intent. -/
def statement (vocabulary : Vocabulary) (intent : Intent) : Statement :=
  let contract := vocabulary.schema
  let rule := vocabulary.aggregation? intent.aggregation.kind
  let filtered := intent.department.isSome
  { items := selectItems contract rule filtered
    contract
    conditions := intent.conditions contract
    groupKeys := groupKeys contract rule filtered
    orderKey := orderKey contract rule intent.comparison
    direction := direction intent.comparison
    limit := writtenLimit? intent.limit vocabulary.limits.maximum }

/-- The marks of the decisions that shape the statement. -/
def marks (vocabulary : Vocabulary) (intent : Intent) : List Mark :=
  let leaves (mark : Mark) (made : Bool) : List Mark :=
    if made then [mark] else []
  (match vocabulary.aggregation? intent.aggregation.kind with
    | none => [.basicSelection]
    | some rule => [.aggregation rule.kind]) ++
  leaves .departmentFilter intent.department.isSome ++
  leaves (.dateFilter intent.dateRange.kind) (!intent.dateRange.predicate.isEmpty) ++
  leaves .metricFilter (!intent.metrics.isEmpty) ++
  leaves (.comparison intent.comparison.kind) (intent.comparison.kind != .none) ++
  leaves .limitResults (writtenLimit? intent.limit vocabulary.limits.maximum).isSome

end Intent

/-- A statement as it is handed out: its text, its parameters and the trail. -/
structure Assembled where
  sql : Text
  parameters : List Text
  trail : List Text
  deriving Repr, DecidableEq

/-- Assembles the statement for an intent. -/
def assemble (vocabulary : Vocabulary) (style : ParamStyle) (intent : Intent) :
    Assembled :=
  let statement := intent.statement vocabulary
  { sql := statement.render style
    parameters := statement.parameters
    trail := (intent.marks vocabulary).map (·.tag) }

/-- The placeholder style that a value names. -/
def ParamStyle.named (given : Value) : Except Fault ParamStyle :=
  match given.text?.bind Tagged.ofTag? with
  | some style => .ok style
  | none => do throw (.unknownStyle (← given.write))

end Inquiry
