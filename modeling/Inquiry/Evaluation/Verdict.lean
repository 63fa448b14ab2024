import Inquiry.Compiler
import Inquiry.Vocabulary.Bundled

/-!
# Verdicts

A question is compiled and the result is compared with what was expected of it.
A question passes when every comparison holds.

A refusal of the compiler is a verdict of its own; any other fault ends the
evaluation.  How long the compilation took is measured outside and handed in.
-/

namespace Inquiry

/-- The outcome of one question. -/
structure Verdict where
  question : Value
  /-- The message of the refusal, if the question was refused. -/
  error : Option Text := none
  /-- The time that the compilation took, in milliseconds. -/
  latency : Int
  departmentOk : Bool := false
  dateOk : Bool := false
  aggregationOk : Bool := false
  limitOk : Bool := false
  patternsOk : Bool := false
  parityOk : Bool := false
  success : Bool := false
  sql : Text := []
  patterns : List Text := []

namespace Verdict

/-- The outcome of a refused question. -/
def refused (question : Value) (message : Text) (latency : Int) : Verdict :=
  { question, error := some message, latency }

/-- The value expected under a key, or a default where none is named. -/
def expected (record : List (Value × Value)) (key : Text) (default : Value) : Value :=
  (Value.lookup? key record).getD default

/-- Compares a compiled query with what a record expects. -/
def ofQuery (question : Value) (record : List (Value × Value))
    (query : CompiledQuery) (latency : Int) : Verdict :=
  let department := (query.departmentFilter.map Value.text).getD .null
  let patterns := Value.texts query.matchedPatterns
  let departmentOk := department.same (expected record "expected_department" .null)
  let dateOk :=
    (Value.text query.dateFilter).same (expected record "expected_date" (.text "none"))
  let aggregationOk :=
    (Value.text query.aggregationType).same
      (expected record "expected_aggregation" (.text "none"))
  let limitOk := (Value.int query.limit).same (expected record "expected_limit" (.int 0))
  let patternsOk := patterns.same (expected record "expected_patterns" patterns)
  let parityOk :=
    Safety.countPlaceholders (some query.paramStyle) query.sql == query.parameters.length
  { question, latency
    departmentOk, dateOk, aggregationOk, limitOk, patternsOk, parityOk
    success :=
      departmentOk && dateOk && aggregationOk && limitOk && patternsOk && parityOk
    sql := query.sql
    patterns := query.matchedPatterns }

/-- Compiles the question of a record, which takes the given time, and judges the
outcome. -/
def ofRecord (surroundings : Surroundings) (schema record : Value) (latency : Int) :
    Except Fault Verdict := do
  let entries ← record.entries
  match Value.lookup? "question" entries with
  | none => throw (.missingKey "question")
  | some question =>
      let job : Job :=
        { question
          schema := .description schema
          department := (Value.lookup? "department" entries).getD .null
          dateRange := (Value.lookup? "date_range" entries).getD .null }
      match Compiler.compile surroundings job with
      | .ok query => return ofQuery question entries query latency
      | .error fault =>
          match fault.report? with
          | some report => return refused question report.message latency
          | none => throw fault

/-- The keys of a recorded outcome, in the order in which they are asked for. -/
def keys : List Text :=
  ["latency_ms", "success", "department_ok", "date_ok", "aggregation_ok",
   "limit_ok", "patterns_ok", "parity_ok", "generated_sql", "patterns", "question"]

/-- Requires a key of a recorded outcome. -/
def require (key : Text) (raw : Value) : Except Fault Value := do
  let entries ← raw.entries
  match Value.lookup? key entries with
  | some value => return value
  | none => throw (.missingKey key)

/-- The texts of a list of texts. -/
def textsOf (value : Value) : Except Fault (List Text) :=
  match value with
  | .list items =>
      items.mapM fun item =>
        match item with
        | .text content => .ok content
        | _ => .error .wrongType
  | _ => .error .wrongType

/-- Reads a recorded outcome that has all keys. -/
def readOne (raw : Value) : Except Fault Verdict := do
  let flag (key : Text) : Except Fault Bool := return (← require key raw).isPresent
  let latency ←
    match ← require "latency_ms" raw with
    | .int number => pure number
    | .bool truth => pure (if truth then 1 else 0)
    | _ => throw .wrongType
  let sql ←
    match ← require "generated_sql" raw with
    | .text content => pure content
    | .null => pure []
    | _ => throw .wrongType
  let error ←
    match (Value.lookup? "error" (← raw.entries)).filter (·.isPresent) with
    | some given => some <$> given.write
    | none => pure none
  return {
    question := ← require "question" raw
    error
    latency
    departmentOk := ← flag "department_ok"
    dateOk := ← flag "date_ok"
    aggregationOk := ← flag "aggregation_ok"
    limitOk := ← flag "limit_ok"
    patternsOk := ← flag "patterns_ok"
    parityOk := ← flag "parity_ok"
    success := ← flag "success"
    sql
    patterns := ← textsOf (← require "patterns" raw) }

/-- Reads recorded outcomes.  A missing key is found key by key. -/
def readAll (raws : List Value) : Except Fault (List Verdict) := do
  for key in keys do
    for raw in raws do
      let _ ← require key raw
  raws.mapM readOne

end Verdict

end Inquiry
