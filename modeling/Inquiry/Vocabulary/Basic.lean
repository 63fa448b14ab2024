import Inquiry.Kind
import Inquiry.Pattern.Basic
import Inquiry.Value.Basic

/-!
# Vocabularies

A vocabulary is the closed set of phrases that questions are understood by,
together with the tables and columns that statements may name.  The order of
the rules is the order in which they are tried.
-/

namespace Inquiry

/-- The table of metric records. -/
structure FactTable where
  table : Text
  /-- The name that statements use for the table. -/
  shortName : Text
  departmentKey : Text
  metricName : Text
  metricValue : Text
  metricDate : Text
  changePercent : Text
  deriving Repr, DecidableEq

/-- The table of departments. -/
structure DimensionTable where
  table : Text
  /-- The name that statements use for the table. -/
  shortName : Text
  key : Text
  name : Text
  code : Text
  deriving Repr, DecidableEq

/-- A column under the short name of its table. -/
def qualified (shortName column : Text) : Text :=
  shortName ++ "." ++ column

namespace FactTable

/-- A column of the table under its short name. -/
def column (fact : FactTable) (name : Text) : Text :=
  qualified fact.shortName name

/-- Every column that statements name. -/
def columns (fact : FactTable) : List Text :=
  [fact.departmentKey, fact.metricName, fact.metricValue, fact.metricDate,
   fact.changePercent]

end FactTable

namespace DimensionTable

/-- A column of the table under its short name. -/
def column (dimension : DimensionTable) (name : Text) : Text :=
  qualified dimension.shortName name

/-- Every column that statements name. -/
def columns (dimension : DimensionTable) : List Text :=
  [dimension.key, dimension.name, dimension.code]

end DimensionTable

/-- The tables and columns that statements depend on. -/
structure SchemaContract where
  fact : FactTable
  dimension : DimensionTable
  deriving Repr, DecidableEq

namespace SchemaContract

/-- The two tables. -/
def tables (contract : SchemaContract) : List Text :=
  [contract.fact.table, contract.dimension.table]

/-- The columns required of each table.  Two tables of one name make one entry,
which asks for the columns of the dimension table. -/
def requiredColumns (contract : SchemaContract) : List (Text × List Text) :=
  if contract.fact.table = contract.dimension.table then
    [(contract.fact.table, contract.dimension.columns)]
  else
    [(contract.fact.table, contract.fact.columns),
     (contract.dimension.table, contract.dimension.columns)]

end SchemaContract

/-- A text in small letters holds one of the phrases. -/
def mentions (phrases : List Text) (text : Text) : Bool :=
  phrases.any fun phrase => Text.occurs phrase text

/-- A department and the words that point to it. -/
structure DepartmentRule where
  code : Department
  synonyms : List Text
  deriving Repr, DecidableEq

/-- A date window, the phrases for it and the condition that selects it. -/
structure DateRangeRule where
  kind : DateKind
  phrases : List Text
  predicate : Text
  /-- How explanations name the window; usually a text. -/
  label : Value

/-- A way of summarising, the words for it and the expression it computes. -/
structure AggregationRule where
  kind : AggregationKind
  keywords : List Text
  function : AggregateFunction
  /-- The column under the short name of its table. -/
  column : Text
  /-- The name of the computed column. -/
  output : Text
  /-- How explanations name the computation; usually a text. -/
  label : Value

/-- The call that a rule computes. -/
def AggregationRule.expression (rule : AggregationRule) : Text :=
  Tagged.tag rule.function ++ "(" ++ rule.column ++ ")"

/-- A word and the metrics it stands for; their names are usually texts. -/
structure MetricRule where
  keyword : Text
  names : List Value

/-- A ranking, the words for it and its direction. -/
structure ComparisonRule where
  kind : ComparisonKind
  keywords : List Text
  direction : SortDirection
  deriving Repr, DecidableEq

/-- A pattern for row limits, with the text it was read from. -/
structure LimitPattern where
  source : Text
  pattern : Pattern
  deriving Repr, DecidableEq

/-- How row limits are found and bounded. -/
structure LimitRules where
  patterns : List LimitPattern
  /-- The limit of a ranking that names none. -/
  defaultRanked : Nat
  maximum : Nat
  deriving Repr, DecidableEq

/-- The phrases that questions are understood by. -/
structure Vocabulary where
  version : Value
  schema : SchemaContract
  departments : List DepartmentRule
  dateRanges : List DateRangeRule
  aggregations : List AggregationRule
  metrics : List MetricRule
  comparisons : List ComparisonRule
  limits : LimitRules

namespace Vocabulary

/-- The codes of the departments, in order. -/
def departmentCodes (vocabulary : Vocabulary) : List Text :=
  vocabulary.departments.map fun rule => Tagged.tag rule.code

/-- The rule of a date window. -/
def dateRange? (vocabulary : Vocabulary) (kind : DateKind) :
    Option DateRangeRule :=
  vocabulary.dateRanges.find? (·.kind == kind)

/-- The rule of a way of summarising. -/
def aggregation? (vocabulary : Vocabulary) (kind : AggregationKind) :
    Option AggregationRule :=
  vocabulary.aggregations.find? (·.kind == kind)

/-- The rule of a ranking. -/
def comparison? (vocabulary : Vocabulary) (kind : ComparisonKind) :
    Option ComparisonRule :=
  vocabulary.comparisons.find? (·.kind == kind)

/-- The words of every ranking, in order. -/
def comparisonKeywords (vocabulary : Vocabulary) : List Text :=
  vocabulary.comparisons.flatMap (·.keywords)

end Vocabulary

end Inquiry
