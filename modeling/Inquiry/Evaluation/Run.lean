import Inquiry.Evaluation.Report
import Inquiry.Evaluation.Samples
import Inquiry.Json.Parser

/-!
# Evaluation runs

A run judges every question in order, prints a line for each, and writes the
report.  It succeeds when every question passes.
-/

namespace Inquiry

/-- The fault of a text that is not JSON. -/
def Fault.ofReadError : Json.ReadError → Fault
  | .malformed => malformedJson
  | .integerTooLong digits => integerTooLong digits

namespace Evaluation

/-- Reads JSON, with any newlines. -/
def readJson (text : Text) : Except Fault Value :=
  (Json.parse (Text.unifyNewlines text)).mapError Fault.ofReadError

/-- Reads a file with one record a line; blank lines count for nothing. -/
def readQuestions (text : Text) : Except Fault (List Value) :=
  ((Text.lines (Text.unifyNewlines text)).filter
    fun line => !(Text.strip line).isEmpty).mapM fun line =>
      (Json.parse line).mapError Fault.ofReadError

/-- What a run leaves behind. -/
structure Outcome where
  /-- Zero if every question passed. -/
  code : Nat
  output : Text
  report : Text
  deriving Repr, DecidableEq

/-- The line printed for a question. -/
def progressLine (position total : Nat) (verdict : Verdict) : Except Fault Text := do
  let question ← shortQuestion 60 [] verdict.question
  let status : Text := if verdict.success then "PASS" else "FAIL"
  return "  [" ++ Text.padLeft 2 (Decimal.ofNat position) ++ "/" ++
    Decimal.ofNat total ++ "] " ++ status ++ "  " ++ Text.padRight 60 question ++
    "  " ++ Text.padLeft 4 (Decimal.ofInt verdict.latency) ++ "ms"

/-- Judges records numbered from a position, each with the line printed for
it.  `latency` is the time measured for the record at each position. -/
def judgeFrom (surroundings : Surroundings) (schema : Value) (latency : Nat → Int)
    (total : Nat) : (position : Nat) → List Value → Except Fault (List (Verdict × Text))
  | _, [] => .ok []
  | position, record :: rest => do
      let verdict ← Verdict.ofRecord surroundings schema record (latency position)
      let line ← progressLine position total verdict
      return (verdict, line) ::
        (← judgeFrom surroundings schema latency total (position + 1) rest)

/-- The line that opens the output. -/
def openingLine (total : Nat) : Text :=
  "Loaded " ++ Decimal.ofNat total ++ " eval questions."

/-- The lines that close the output. -/
def closingLines (reportPath : Text) (passed total : Nat) : List Text :=
  [[], "Report written to " ++ reportPath, [],
   "  Success: " ++ Decimal.ofNat passed ++ "/" ++ Decimal.ofNat total]

/-- The exit code: zero if every question passed. -/
def exitCode (verdicts : List Verdict) : Nat :=
  if verdicts.countP (·.success) = verdicts.length then 0 else 1

/-- Runs an evaluation at a given time, for a report at a given path.  `latency`
is the time measured for the question at each place, counted from one. -/
def run (surroundings : Surroundings) (clock reportPath : Text) (latency : Nat → Int)
    (questions : List Value) (schema : Value) : Except Fault Outcome := do
  let total := questions.length
  let judged ← judgeFrom surroundings schema latency total 1 questions
  let verdicts := judged.map (·.1)
  let report ← report clock verdicts
  let lines :=
    openingLine total :: judged.map (·.2) ++
      closingLines reportPath (verdicts.countP (·.success)) verdicts.length
  return {
    code := exitCode verdicts
    output := lines.flatMap (· ++ "\n")
    report }

end Evaluation

end Inquiry
