import Inquiry.Decimal.Fixed
import Inquiry.Evaluation.Verdict

/-!
# Evaluation reports

A report sums up the verdicts of an evaluation in Markdown: the rate of every
check, the latencies, an example, a table with a row per question, and the
failures.
-/

namespace Inquiry.Evaluation

/-- One line of the summary: the share of the verdicts that hold. -/
def rateLine (label : Text) (holds : Verdict → Bool) (verdicts : List Verdict) : Text :=
  let total := verdicts.length
  let count := verdicts.countP holds
  let percent : Float :=
    if total = 0 then 0 else Float.ofNat count / Float.ofNat total * 100
  "| " ++ label ++ " | **" ++ Decimal.fixed 0 percent ++ "%** (" ++
    Decimal.ofNat count ++ "/" ++ Decimal.ofNat total ++ ") |"

/-- The checks of the summary with their labels. -/
def checks : List (Text × (Verdict → Bool)) :=
  [("Overall success", (·.success)),
   ("Department", (·.departmentOk)),
   ("Date range", (·.dateOk)),
   ("Aggregation", (·.aggregationOk)),
   ("Limit", (·.limitOk)),
   ("Pattern trail", (·.patternsOk)),
   ("Parameter parity", (·.parityOk))]

/-- The mean of latencies; none have the mean zero. -/
def meanLatency (latencies : List Int) : Float :=
  if latencies.isEmpty then 0
  else
    let total := latencies.foldl (· + ·) 0
    let size := Decimal.nearestFloat total.natAbs latencies.length
    if total < 0 then -size else size

/-- The latency that 95 of 100 questions do not exceed. -/
def lateLatency (latencies : List Int) : Int :=
  let sorted := latencies.mergeSort fun left right => left ≤ right
  let share := Decimal.Binary.ofFloat (Float.ofNat sorted.length * 0.95)
  let position := min (share.truncated?.getD 0).toNat (sorted.length - 1)
  sorted[position]?.getD 0

/-- The latencies in one sentence. -/
def latencyLine (verdicts : List Verdict) : Text :=
  let latencies := verdicts.map (·.latency)
  "Latency: mean " ++ Decimal.fixed 1 (meanLatency latencies) ++ " ms, p95 " ++
    Decimal.ofInt (lateLatency latencies) ++ " ms."

/-- The head of the report, up to the latencies. -/
def summaryLines (clock : Text) (verdicts : List Verdict) : List Text :=
  let head : List Text :=
    ["# Compiler Evaluation Report", [],
     "> Generated: " ++ clock ++ "  |  Questions: **" ++
       Decimal.ofNat verdicts.length ++ "**", [],
     "## Summary", [],
     "| Check | Value |",
     "|-------|-------|"]
  head ++ checks.map (fun check => rateLine check.1 check.2 verdicts) ++
    [[], latencyLine verdicts, []]

/-- The first statement that does more than select everything. -/
def example? (verdicts : List Verdict) : Option Verdict :=
  verdicts.find? fun verdict =>
    !verdict.sql.isEmpty && verdict.patterns != [Mark.basicSelection.tag]

/-- The example of the report, if there is one. -/
def exampleLines (verdicts : List Verdict) : Except Fault (List Text) := do
  match example? verdicts with
  | none => return []
  | some verdict =>
      let question ← verdict.question.write
      return ["## Example SQL", [],
        "**Question:** *\"" ++ question ++ "\"*", [],
        "```sql", verdict.sql, "```", []]

/-- A flag as a cell of the table. -/
def cell (holds : Bool) : Text :=
  if holds then "OK" else "ERROR"

/-- The flags of a verdict, in the order of the columns. -/
def flags (verdict : Verdict) : List Bool :=
  [verdict.departmentOk, verdict.dateOk, verdict.aggregationOk, verdict.limitOk,
   verdict.patternsOk, verdict.parityOk, verdict.success]

/-- The text of a question, shortened to a number of characters. -/
def shortQuestion (width : Nat) (tail : Text) (question : Value) : Except Fault Text :=
  match question with
  | .text content =>
      .ok (content.take width ++ if width < content.length then tail else [])
  | _ => .error .wrongType

/-- The row of a verdict in the table. -/
def row (position : Nat) (verdict : Verdict) : Except Fault Text := do
  let question ← shortQuestion 55 "..." verdict.question
  return "| " ++ Decimal.ofNat position ++ " | " ++ question ++ " | " ++
    Text.join " | " ((flags verdict).map cell) ++ " |"

/-- The rows of verdicts, numbered from a position. -/
def rowsFrom : (position : Nat) → List Verdict → Except Fault (List Text)
  | _, [] => .ok []
  | position, verdict :: rest => do
      let first ← row position verdict
      return first :: (← rowsFrom (position + 1) rest)

/-- The head of the table. -/
def tableHead : List Text :=
  ["## Per-Question Results", [],
   "| # | Question | Dept | Date | Agg | Limit | Patterns | Parity | Pass |",
   "|---|----------|------|------|-----|-------|----------|--------|------|"]

/-- The entry of a failure. -/
def failureEntry (position : Nat) (verdict : Verdict) : Except Fault (List Text) := do
  let question ← verdict.question.write
  let error : List Text :=
    match verdict.error with
    | some message => ["**Error:** `" ++ message ++ "`"]
    | none => []
  return ["### #" ++ Decimal.ofNat position ++ ": " ++ question, []] ++ error ++
    ["**Patterns:** " ++ Text.quotedList verdict.patterns, []]

/-- The entries of the failures among verdicts numbered from a position. -/
def failuresFrom : (position : Nat) → List Verdict → Except Fault (List Text)
  | _, [] => .ok []
  | position, verdict :: rest => do
      let entry ← if verdict.success then pure [] else failureEntry position verdict
      return entry ++ (← failuresFrom (position + 1) rest)

/-- The failures, or the statement that there are none. -/
def failureLines (verdicts : List Verdict) : Except Fault (List Text) := do
  let head : List Text := ["## Failures", []]
  let none : List Text :=
    if verdicts.all (·.success) then
      ["None -- all questions compiled as expected."]
    else []
  return head ++ none ++ (← failuresFrom 1 verdicts)

/-- The report of an evaluation. -/
def report (clock : Text) (verdicts : List Verdict) : Except Fault Text := do
  let shown ← exampleLines verdicts
  let rows ← rowsFrom 1 verdicts
  let failures ← failureLines verdicts
  return Text.join "\n"
    (summaryLines clock verdicts ++ shown ++ tableHead ++ rows ++ [[]] ++ failures)

end Inquiry.Evaluation
