import Inquiry.Kind
import Inquiry.Statement.Assembly

/-!
# Evaluation samples

A catalog that satisfies the bundled contract, and questions with what their
compilation is expected to yield.
-/

namespace Inquiry.Evaluation

/-- Describes a column of the sample catalog. -/
def sampleColumn (name type : Text) (nullable primaryKey : Bool) : Value :=
  .record
    [("column_name", .text name), ("data_type", .text type),
     ("is_nullable", .bool nullable), ("is_primary_key", .bool primaryKey)]

/-- Describes a table of the sample catalog. -/
def sampleTable (name : Text) (columns : List Value) : Value :=
  .record
    [("table_name", .text name), ("table_type", .text "BASE TABLE"),
     ("columns", .list columns)]

/-- The description of the sample catalog. -/
def sampleCatalog : Value :=
  .record
    [("schema_name", .text "public"),
     ("tables", .list [
       sampleTable "departments" [
         sampleColumn "id" "integer" false true,
         sampleColumn "name" "character varying" false false,
         sampleColumn "code" "character varying" false false,
         sampleColumn "description" "text" true false,
         sampleColumn "budget" "numeric" true false],
       sampleTable "metrics" [
         sampleColumn "id" "integer" false true,
         sampleColumn "department_id" "integer" true false,
         sampleColumn "metric_name" "character varying" false false,
         sampleColumn "metric_value" "numeric" true false,
         sampleColumn "metric_date" "date" false false,
         sampleColumn "duration_type" "character varying" true false,
         sampleColumn "weekly_change_percent" "numeric" true false,
         sampleColumn "monthly_change_percent" "numeric" true false]]),
     ("total_tables", .int 2)]

/-- What a sample question is expected to be compiled to. -/
structure Expectation where
  question : Text
  /-- Explicit overrides, by the name of the field. -/
  overrides : List (Text × Text) := []
  department : Option Department := none
  date : DateKind := .none
  aggregation : AggregationKind := .none
  limit : Nat := 0
  marks : List Mark

/-- An expectation as a record. -/
def Expectation.describe (expected : Expectation) : Value :=
  let given : List (Text × Value) := [("question", .text expected.question)]
  let overrides : List (Text × Value) :=
    expected.overrides.map fun override => (override.1, .text override.2)
  let results : List (Text × Value) :=
    [("expected_department",
      (expected.department.map fun code => .text (Tagged.tag code)).getD .null),
     ("expected_date", .text (Tagged.tag expected.date)),
     ("expected_aggregation", .text (Tagged.tag expected.aggregation)),
     ("expected_limit", .int expected.limit),
     ("expected_patterns", .texts (expected.marks.map (·.tag)))]
  .record (given ++ overrides ++ results)

/-- The expectations of the sample questions. -/
def expectations : List Expectation :=
  [{ question := "Show me sales metrics"
     department := some .sales
     marks := [.basicSelection, .departmentFilter] },
   { question := "What were our Q4 results?"
     date := .q4
     marks := [.basicSelection, .dateFilter .q4] },
   { question := "total pipeline this year"
     department := some .sales
     date := .thisYear
     aggregation := .sum
     marks := [.aggregation .sum, .departmentFilter, .dateFilter .thisYear, .metricFilter] },
   { question := "show me our top 5 departments"
     limit := 5
     marks := [.basicSelection, .comparison .top, .limitResults] },
   { question := "What are our top performing departments?"
     limit := 10
     marks := [.basicSelection, .comparison .top, .limitResults] },
   { question := "Employee satisfaction metrics"
     department := some .hr
     marks := [.basicSelection, .departmentFilter, .metricFilter] },
   { question := "average cash last month"
     department := some .finance
     date := .lastMonth
     aggregation := .avg
     marks := [.aggregation .avg, .departmentFilter, .dateFilter .lastMonth, .metricFilter] },
   { question := "github stars growth this month"
     department := some .devrel
     date := .thisMonth
     aggregation := .growth
     marks := [.aggregation .growth, .departmentFilter, .dateFilter .thisMonth, .metricFilter] },
   { question := "show me finance numbers"
     overrides := [("department", "sales")]
     department := some .sales
     marks := [.basicSelection, .departmentFilter] },
   { question := "3 worst compliance audit scores"
     department := some .compliance
     limit := 3
     marks := [.basicSelection, .departmentFilter, .comparison .bottom, .limitResults] },
   { question := "metrics for the third quarter"
     overrides := [("date_range", "q3")]
     date := .q3
     marks := [.basicSelection, .dateFilter .q3] },
   { question := "hello"
     marks := [.basicSelection] }]

/-- The sample questions as records. -/
def sampleQuestions : List Value :=
  expectations.map (·.describe)

end Inquiry.Evaluation
