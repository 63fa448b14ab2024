import Inquiry.Fault
import Inquiry.Text.Blank
import Inquiry.Text.Case
import Inquiry.Pattern.Parser

/-!
# Reading vocabularies

A vocabulary is read section by section; the first flaw ends the reading.
Phrases are kept in small letters and without surrounding blanks, because they
are looked for in questions in small letters.

A section may be any value that can be iterated over, but each of its entries
has to be a mapping.
-/

namespace Inquiry

/-- The entries of a mapping; no other value has any. -/
def Value.entries (value : Value) : Except Fault (List (Value × Value)) :=
  match value with
  | .mapping entries => .ok entries
  | _ => .error .wrongType

/-- What iteration over a value yields. -/
def Value.elements (value : Value) : Except Fault (List Value) :=
  match value.elements? with
  | some items => .ok items
  | none => .error .wrongType

/-- The whole number that a value denotes: a number loses its fraction, a text
is read. -/
def Value.toInteger : Value → Except Fault Int
  | .bool truth => .ok (if truth then 1 else 0)
  | .int number => .ok number
  | .float number =>
      match Decimal.Binary.ofFloat number with
      | .undefined => .error .undefinedNumber
      | .infinite _ => .error .infiniteNumber
      | finite => .ok (finite.truncated?.getD 0)
  | .text content => (Decimal.readInt content).mapError (Fault.ofIntegerError content)
  | _ => .error .wrongType

namespace Vocabulary

/-- The fault of a flaw that names a value. -/
def flawOf (given : Value) (flaw : Text → VocabularyFlaw) : Fault :=
  match given.literal? with
  | some written => .vocabulary (flaw written)
  | none => .unwritableInteger

/-- A letter or underscore, then letters, digits and underscores of ASCII. -/
def isIdentifier : Text → Bool
  | [] => false
  | c :: rest =>
      (c.isAlpha || c == '_') && rest.all fun c => c.isAlphanum || c == '_'

/-- The identifier under a key of an entry. -/
def identifier (entry : Value) (key place : Text) : Except Fault Text := do
  let entries ← entry.entries
  match Value.lookup? key entries with
  | some (.text name) =>
      if isIdentifier name then .ok name
      else .error (flawOf (.text name) (.notIdentifier place key))
  | other => .error (flawOf (other.getD .null) (.notIdentifier place key))

/-- A value, or a default where it is absent or empty. -/
def presentOr (default : Value) : Option Value → Value
  | some value => if value.isPresent then value else default
  | none => default

/-- The text of an entry under a key, empty if it is absent. -/
def displayed (entries : List (Value × Value)) (key : Text) : Except Fault Text :=
  match Value.lookup? key entries with
  | some value => value.write
  | none => .ok []

/-- The phrases of an entry: those that are not blank, in small letters and
without surrounding blanks. -/
def phrases (entries : List (Value × Value)) (key place : Text) :
    Except Fault (List Text) := do
  let values ← (presentOr (.list []) (Value.lookup? key entries)).elements
  let spelled ← values.mapM Value.write
  let found := (spelled.filter fun phrase => !(Text.strip phrase).isEmpty).map
    fun phrase => Text.strip (Text.lower phrase)
  if found.isEmpty then .error (.vocabulary (.noPhrases place key)) else .ok found

/-- Reads the fact table. -/
def readFact (raw : Value) : Except Fault FactTable := do
  let column (key : Text) := identifier raw key "schema.fact"
  let table ← column "table"
  let shortName ← column "alias"
  let departmentKey ← column "department_key"
  let metricName ← column "metric_name"
  let metricValue ← column "metric_value"
  let metricDate ← column "metric_date"
  let changePercent ← column "change_percent"
  return { table, shortName, departmentKey, metricName, metricValue, metricDate,
           changePercent }

/-- Reads the dimension table. -/
def readDimension (raw : Value) : Except Fault DimensionTable := do
  let column (key : Text) := identifier raw key "schema.dimension"
  let table ← column "table"
  let shortName ← column "alias"
  let key ← column "key"
  let name ← column "name"
  let code ← column "code"
  return { table, shortName, key, name, code }

/-- Whether a value names a table: a mapping by a key, a list by an item, a text
by a piece of it. -/
def names (raw : Value) (table : Text) : Except Fault Bool :=
  match raw with
  | .mapping entries => .ok (Value.lookup? table entries).isSome
  | .list items => .ok (items.any fun item => item.text? == some table)
  | .text content => .ok (Text.occurs table content)
  | _ => .error .wrongType

/-- Reads the schema section. -/
def readSchema (raw : Value) : Except Fault SchemaContract := do
  let missing : Fault := .vocabulary .schemaMissing
  if !raw.isPresent then .error missing
  else if !(← names raw "fact") then .error missing
  else if !(← names raw "dimension") then .error missing
  else
    let entries ← raw.entries
    let fact ← readFact ((Value.lookup? "fact" entries).getD .null)
    let dimension ← readDimension ((Value.lookup? "dimension" entries).getD .null)
    if fact.shortName = dimension.shortName then .error (.vocabulary .sameAliases)
    else return { fact, dimension }

/-- Reads a department. -/
def readDepartment (raw : Value) : Except Fault DepartmentRule := do
  let entries ← raw.entries
  let given := Text.lower (← displayed entries "code")
  match Tagged.ofTag? given with
  | none => .error (.vocabulary (.unknownDepartment given))
  | some code =>
      let synonyms ← phrases entries "synonyms" "departments"
      return { code, synonyms }

/-- The member of a finite kind under the key `kind`, if it is an allowed one. -/
def kindOf {α : Type} [Tagged α] (allowed : α → Bool)
    (entries : List (Value × Value)) : Option α :=
  ((Value.lookup? "kind" entries).bind Value.text?).bind fun tag =>
    (Tagged.ofTag? tag).filter allowed

/-- The value under the key `kind`, null if it is absent. -/
def givenKind (entries : List (Value × Value)) : Value :=
  (Value.lookup? "kind" entries).getD .null

/-- The mark in a predicate that stands for the metric date. -/
def dateMark : Text := "\x7bdate\x7d"

/-- Reads a date window. -/
def readDateRange (contract : SchemaContract) (raw : Value) :
    Except Fault DateRangeRule := do
  let entries ← raw.entries
  match kindOf (fun kind => kind != .none && kind != .custom) entries with
  | none => .error (flawOf (givenKind entries) .badDateKind)
  | some kind =>
      let predicate := Text.strip (← displayed entries "predicate")
      if predicate.isEmpty then .error (.vocabulary (.noPredicate kind))
      else
        let column := contract.fact.column contract.fact.metricDate
        let phrases ← phrases entries "phrases" "date_ranges"
        let spoken := Text.swap '_' ' ' (Tagged.tag kind)
        return {
          kind
          phrases
          predicate := Text.replace dateMark column predicate
          label := presentOr (.text spoken) (Value.lookup? "label" entries) }

/-- The columns of the fact table that may be summarised, by their roles. -/
def summarised? (fact : FactTable) (role : Value) : Option Text :=
  match role with
  | .text name =>
      if name = "metric_value" then some fact.metricValue
      else if name = "change_percent" then some fact.changePercent
      else none
  | _ => none

/-- Reads a way of summarising. -/
def readAggregation (contract : SchemaContract) (raw : Value) :
    Except Fault AggregationRule := do
  let entries ← raw.entries
  match kindOf (· != AggregationKind.none) entries with
  | none => .error (flawOf (givenKind entries) .badAggregationKind)
  | some kind =>
      let given := Text.upper (← displayed entries "function")
      match Tagged.ofTag? given with
      | none => .error (.vocabulary (.badFunction kind given))
      | some function =>
          let role := (Value.lookup? "column" entries).getD (.text "metric_value")
          match summarised? contract.fact role with
          | none => .error (flawOf role (.badColumnRole kind))
          | some name =>
              let keywords ← phrases entries "keywords" "aggregations"
              let output ←
                identifier raw "output" ("aggregations." ++ Tagged.tag kind)
              let spoken := "calculate " ++ Tagged.tag kind ++ " of"
              return {
                kind, keywords, function, output
                column := contract.fact.column name
                label := presentOr (.text spoken) (Value.lookup? "label" entries) }

/-- Reads a metric keyword. -/
def readMetric (raw : Value) : Except Fault MetricRule := do
  let entries ← raw.entries
  let keyword := Text.strip (Text.lower (← displayed entries "keyword"))
  if keyword.isEmpty then .error (.vocabulary .noKeyword)
  else
    let names ← (presentOr (.list []) (Value.lookup? "names" entries)).elements
    if names.isEmpty then .error (.vocabulary (.noMetricNames keyword))
    else return { keyword, names }

/-- Reads a ranking. -/
def readComparison (raw : Value) : Except Fault ComparisonRule := do
  let entries ← raw.entries
  match kindOf (· != ComparisonKind.none) entries with
  | none => .error (flawOf (givenKind entries) .badComparisonKind)
  | some kind =>
      let given := Text.upper (← displayed entries "direction")
      match (Tagged.ofTag? given).filter (· != SortDirection.unsorted) with
      | none => .error (.vocabulary (.badDirection kind given))
      | some direction =>
          let keywords ← phrases entries "keywords" "comparisons"
          return { kind, keywords, direction }

/-- The fault of a pattern that was refused.  Numbers in it that are out of reach
are faults of their own, and so are classes that exclude each other. -/
def patternFault (source : Text) (error : Pattern.ParseError) : Fault :=
  match error.cause with
  | .boundTooLong digits => .integerTooLong digits
  | .boundTooLarge => .oversizedRepetition
  | .characterTooLarge => .oversizedCharacter
  | .incompatibleClasses => .incompatibleOptions
  | _ => .vocabulary (.badPattern source error)

/-- Reads a limit pattern, which has to capture something. -/
def readPattern (raw : Value) : Except Fault LimitPattern :=
  match raw with
  | .text source =>
      match Pattern.parse source with
      | .error error => .error (patternFault source error)
      | .ok pattern =>
          if pattern.groupCount = 0 then
            .error (.vocabulary (.patternCapturesNothing source))
          else .ok { source, pattern }
  | _ => .error .wrongType

/-- Reads the limits section. -/
def readLimits (raw : Value) : Except Fault LimitRules := do
  let entries ← (if raw.isPresent then raw else .mapping []).entries
  let listed ← (presentOr (.list []) (Value.lookup? "patterns" entries)).elements
  let patterns ← listed.mapM readPattern
  let default ←
    ((Value.lookup? "default_ranked_limit" entries).getD (.int 10)).toInteger
  let maximum ← ((Value.lookup? "max_limit" entries).getD (.int 1000)).toInteger
  if default < 0 ∨ maximum < 1 ∨ maximum < default then
    let default ← (Value.int default).write
    let maximum ← (Value.int maximum).write
    throw (.vocabulary (.badLimits default maximum))
  else
    return { patterns, defaultRanked := default.toNat, maximum := maximum.toNat }

/-- The tags that occur more than once, sorted. -/
def repeatedTags (tags : List Text) : List Text :=
  ((tags.filter fun tag => 1 < tags.count tag).eraseDups).mergeSort
    fun left right => !Text.precedes right left

/-- Refuses a section in which a tag occurs more than once. -/
def requireDistinct (tags : List Text) (place : Text) : Except Fault Unit :=
  match repeatedTags tags with
  | [] => .ok ()
  | kinds => .error (.vocabulary (.duplicates place kinds))

/-- The entries of a section; an absent section has none. -/
def sectionItems (entries : List (Value × Value)) (name : Text) :
    Except Fault (List Value) :=
  ((Value.lookup? name entries).getD (.list [])).elements

/-- Reads a vocabulary. -/
def read (raw : Value) : Except Fault Vocabulary :=
  match raw with
  | .mapping entries => do
      let schema ← readSchema ((Value.lookup? "schema" entries).getD .null)
      let departments ← (← sectionItems entries "departments").mapM readDepartment
      let dateRanges ←
        (← sectionItems entries "date_ranges").mapM (readDateRange schema)
      let aggregations ←
        (← sectionItems entries "aggregations").mapM (readAggregation schema)
      let metrics ← (← sectionItems entries "metrics").mapM readMetric
      let comparisons ← (← sectionItems entries "comparisons").mapM readComparison
      requireDistinct (departments.map fun rule => Tagged.tag rule.code) "department"
      requireDistinct (dateRanges.map fun rule => Tagged.tag rule.kind) "date range"
      requireDistinct (aggregations.map fun rule => Tagged.tag rule.kind) "aggregation"
      requireDistinct (comparisons.map fun rule => Tagged.tag rule.kind) "comparison"
      let limits ← readLimits ((Value.lookup? "limits" entries).getD .null)
      return {
        version := (Value.lookup? "version" entries).getD (.int 1)
        schema, departments, dateRanges, aggregations, metrics, comparisons, limits }
  | _ => .error (.vocabulary .notMapping)

end Vocabulary

end Inquiry
