import Inquiry.Evaluation.Run
import Inquiry.Vocabulary.File
import Std.Time.Format

/-!
# Command line

Runs the evaluation.  Questions and catalog are read from their files, which have
to exist.  The report is written next to them, and the exit code is zero if every
question passed.

Everything that decides an outcome is elsewhere; here files, environment and
clocks are read, and results are written.
-/

namespace Inquiry.Main

/-- The file of the questions, one record a line. -/
def questionsPath : String := "analytics/eval/eval_questions.jsonl"

/-- The file of the catalog. -/
def catalogPath : String := "analytics/eval/catalog.json"

/-- The directory of the report. -/
def reportDirectory : String := "analytics/reports"

/-- The file of the report. -/
def reportPath : String := reportDirectory ++ "/eval_report.md"

/-- The variables that settings are read from. -/
def settingNames : List String :=
  ["param_style", "PARAM_STYLE", "vocabulary_path", "VOCABULARY_PATH",
   "log_level", "LOG_LEVEL"]

/-- The text of a file, if it can be read. -/
def readFile? (path : String) : IO (Option Text) := do
  try return some (← IO.FS.readFile path).toList
  catch _ => return none

/-- The variables that are set. -/
def environment : IO Environment := do
  let settings ← settingNames.mapM fun name => do
    let value ← IO.getEnv name
    return value.map fun value => (name.toList, value.toList)
  return settings.filterMap id

/-- The settings of the process and the vocabulary that they name. -/
def surroundings : IO Surroundings := do
  let settings := Settings.read (← environment)
  let path := (Vocabulary.path settings []).toOption.getD []
  let content ← readFile? (String.ofList path)
  let vocabulary :=
    Vocabulary.load (fun name => if name = path then content else none) settings []
  return { settings, vocabulary }

/-- The time of day as reports show it. -/
def clock : IO Text := do
  let now ← Std.Time.PlainDateTime.now
  return (now.format "uuuu-MM-dd HH:mm").toList

/-- What is said about a fault that ends the evaluation. -/
def complaint (fault : Fault) : Text :=
  match fault.report?, fault.message? with
  | some report, _ => report.message
  | none, some message => message
  | none, none => "The evaluation could not be completed."

/-- The questions and the catalog that the texts of the two files hold. -/
def inputs (questions catalog : Option Text) : Except Fault (List Value × Value) := do
  let some questions := questions | throw .fileNotFound
  let records ← Evaluation.readQuestions questions
  let some catalog := catalog | throw .fileNotFound
  return (records, ← Evaluation.readJson catalog)

/-- The milliseconds that it takes to judge a record. -/
def measure (surroundings : Surroundings) (schema record : Value) : IO Int := do
  let start ← IO.monoNanosNow
  let _ ← IO.lazyPure fun _ => Verdict.ofRecord surroundings schema record 0
  let finish ← IO.monoNanosNow
  return ((finish - start) / 1000000 : Nat)

/-- Evaluates the questions under a catalog. -/
def evaluate (questions : List Value) (schema : Value) (surroundings : Surroundings) :
    IO (Except Fault Evaluation.Outcome) := do
  let latencies ← questions.mapM (measure surroundings schema)
  let latency (place : Nat) : Int := (latencies[place - 1]?).getD 0
  return Evaluation.run surroundings (← clock) reportPath.toList latency questions schema

end Inquiry.Main

open Inquiry Inquiry.Main in
/-- Runs the evaluation, writes the report and returns the exit code. -/
def main : IO UInt32 := do
  let files := inputs (← readFile? questionsPath) (← readFile? catalogPath)
  let outcome ←
    match files with
    | .ok (questions, schema) => evaluate questions schema (← surroundings)
    | .error fault => pure (.error fault)
  match outcome with
  | .error fault =>
      IO.eprintln (String.ofList (complaint fault))
      return 1
  | .ok outcome =>
      IO.FS.createDirAll reportDirectory
      IO.FS.writeFile reportPath (String.ofList outcome.report)
      IO.print (String.ofList outcome.output)
      return UInt32.ofNat outcome.code
