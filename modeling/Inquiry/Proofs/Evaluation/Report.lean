import Inquiry.Evaluation.Report
import Inquiry.Proofs.Decimal.Integer
import Inquiry.Proofs.Outcome
import Inquiry.Proofs.Text.Lines
import Inquiry.Proofs.Text.Pieces

/-!
# The parts of a report

A report is written in lines: the summary and the example, the table with a row for every verdict,
and the failures.  Rows and failures are numbered by the places of the verdicts.  What a row says
of success is read off its last cell, and the failures that are listed are read off their headings.

Questions that are texts are always written, so the lines of their report are spelled out here as a
function of the verdicts.
-/

namespace Inquiry

/-- The text of a question that is one. -/
def Verdict.content (verdict : Verdict) : Text :=
  verdict.question.text?.getD []

theorem Verdict.question_eq {verdict : Verdict}
    (asks : ∃ content, verdict.question = .text content) :
    verdict.question = .text verdict.content := by
  obtain ⟨content, given⟩ := asks
  rw [Verdict.content, given]
  rfl

namespace Evaluation

variable {verdicts : List Verdict}
  (asked : ∀ verdict ∈ verdicts, ∃ content, verdict.question = .text content)

/-! ## Rows -/

theorem not_mem_ofNat {c : Char} (plain : c.isDigit = false) (number : Nat) :
    c ∉ Decimal.ofNat number := by
  intro member
  rw [Decimal.isDigit_of_mem_ofNat member] at plain
  cases plain

theorem shortQuestion_eq_ok {width : Nat} {tail text : Text} {question : Value} :
    shortQuestion width tail question = .ok text ↔
      ∃ content, question = .text content ∧
        content.take width ++ (if width < content.length then tail else []) = text := by
  cases question with
  | text content => simp [shortQuestion]
  | _ => simp [shortQuestion]

/-- A question as it stands in its row. -/
def shown (content : Text) : Text :=
  content.take 55 ++ if 55 < content.length then "...".toList else []

/-- A row for a question that is a text. -/
def rowText (position : Nat) (content : Text) (verdict : Verdict) : Text :=
  "| " ++ Decimal.ofNat position ++ " | " ++ shown content ++ " | " ++
    Text.join " | " ((flags verdict).map cell) ++ " |"

theorem row_eq_ok {position : Nat} {verdict : Verdict} {line : Text} :
    row position verdict = .ok line ↔
      ∃ content, verdict.question = .text content ∧ line = rowText position content verdict := by
  rw [row, Outcome.bind_eq_ok]
  constructor
  · rintro ⟨short, shortened, written⟩
    obtain ⟨content, given, rfl⟩ := shortQuestion_eq_ok.mp shortened
    exact ⟨content, given, (Outcome.pure_eq_ok.mp written).symm⟩
  · rintro ⟨content, given, rfl⟩
    exact ⟨_, shortQuestion_eq_ok.mpr ⟨content, given, rfl⟩, rfl⟩

theorem rowsFrom_eq_mapM (position : Nat) (verdicts : List Verdict) :
    rowsFrom position verdicts =
      (verdicts.zipIdx position).mapM fun numbered => row numbered.2 numbered.1 := by
  induction verdicts generalizing position with
  | nil => rfl
  | cons verdict rest ih => rw [rowsFrom, ih, List.zipIdx_cons, List.mapM_cons]

/-- The rows of the table, one for each verdict. -/
def rowTexts (verdicts : List Verdict) : List Text :=
  (verdicts.zipIdx 1).map fun numbered => rowText numbered.2 numbered.1.content numbered.1

include asked in
/-- Questions that are texts have rows. -/
theorem rowsFrom_eq : rowsFrom 1 verdicts = .ok (rowTexts verdicts) := by
  rw [rowsFrom_eq_mapM]
  apply Outcome.mapM_eq_ok
  exact fun numbered member => row_eq_ok.mpr ⟨_, Verdict.question_eq
    (asked numbered.1 (List.fst_mem_of_mem_zipIdx member)), rfl⟩

/-- The last cell of a row. -/
def passCell (line : Text) : Option Text :=
  (Text.pieces '|' line).dropLast.getLast?

/-- The last cell tells whether the question passed, whatever the question is. -/
theorem passCell_rowText (position : Nat) (content : Text) (verdict : Verdict) :
    passCell (rowText position content verdict) = some (" " ++ cell verdict.success ++ " ") := by
  have split : (flags verdict).map cell =
      (flags verdict).dropLast.map cell ++ [cell verdict.success] := rfl
  have line : ∃ front, rowText position content verdict =
      front ++ '|' :: (" ".toList ++ cell verdict.success ++ " " ++ '|' :: []) := by
    have nonempty : (flags verdict).dropLast.map cell ≠ [] := by simp [flags]
    unfold rowText
    rw [split, Text.join_concat nonempty]
    exact ⟨"| ".toList ++ (Decimal.ofNat position ++ (" | ".toList ++ (shown content ++
      (" | ".toList ++ (Text.join " | " ((flags verdict).dropLast.map cell) ++ [' ']))))), by simp⟩
  have plain : '|' ∉ " ".toList ++ cell verdict.success ++ " ".toList := by
    cases verdict.success <;> decide
  obtain ⟨front, parted⟩ := line
  rw [passCell, parted, Text.pieces_append_mark]
  rw [Text.pieces_append_mark, Text.pieces_of_not_mem plain]
  simp [Text.pieces]

theorem passCell_eq_ok_iff {position : Nat} {content : Text} {verdict : Verdict} :
    passCell (rowText position content verdict) = some " OK ".toList ↔
      verdict.success = true := by
  rw [passCell_rowText]
  cases verdict.success <;> decide

/-! ## Failures -/

/-- The verdicts that do not pass, with their places. -/
def failing (verdicts : List Verdict) : List (Verdict × Nat) :=
  (verdicts.zipIdx 1).filter fun numbered => !numbered.1.success

theorem mem_failing {verdict : Verdict} {position : Nat} :
    (verdict, position) ∈ failing verdicts ↔
      1 ≤ position ∧ verdicts[position - 1]? = some verdict ∧ verdict.success = false := by
  rw [failing, List.mem_filter, List.mk_mem_zipIdx_iff_le_and_getElem?_sub]
  simp [and_assoc]

/-- The places of the verdicts that do not pass are in order. -/
theorem pairwise_failing (verdicts : List Verdict) :
    ((failing verdicts).map (·.2)).Pairwise (· < ·) := by
  have all : ((verdicts.zipIdx 1).map (·.2)).Pairwise (· < ·) := by
    rw [List.zipIdx_map_snd]
    exact List.pairwise_lt_range' 1
  exact all.sublist (List.filter_sublist.map _)

theorem failing_eq_nil_iff :
    failing verdicts = [] ↔ ∀ verdict ∈ verdicts, verdict.success = true := by
  have each : (∀ verdict ∈ verdicts, verdict.success = true) ↔
      ∀ numbered ∈ verdicts.zipIdx 1, numbered.1.success = true := by
    conv_lhs => rw [← List.zipIdx_map_fst 1 verdicts]
    exact List.forall_mem_map
  rw [each, failing, List.filter_eq_nil_iff]
  simp

/-- The heading of an entry. -/
def heading (position : Nat) (content : Text) : Text :=
  "### #" ++ Decimal.ofNat position ++ ": " ++ content

/-- What an entry says below its heading. -/
def entryDetails (verdict : Verdict) : List Text :=
  (match verdict.error with
    | some message => ["**Error:** `" ++ message ++ "`"]
    | none => []) ++ ["**Patterns:** " ++ Text.quotedList verdict.patterns]

/-- The entry of a failure whose question is a text. -/
def entryText (position : Nat) (verdict : Verdict) : List Text :=
  heading position verdict.content :: [] :: (entryDetails verdict ++ [[]])

theorem failureEntry_eq {verdict : Verdict} (asks : ∃ content, verdict.question = .text content)
    (position : Nat) : failureEntry position verdict = .ok (entryText position verdict) := by
  have written : verdict.question.write = .ok verdict.content := by
    rw [Verdict.question_eq asks]
    rfl
  unfold failureEntry entryText entryDetails heading
  rw [written, Outcome.ok_bind]
  cases verdict.error <;> rfl

include asked in
theorem failuresFrom_eq (position : Nat) : failuresFrom position verdicts =
    .ok (((verdicts.zipIdx position).filter fun numbered => !numbered.1.success).flatMap
      fun numbered => entryText numbered.2 numbered.1) := by
  induction verdicts generalizing position with
  | nil => rfl
  | cons verdict rest ih =>
      rw [List.forall_mem_cons] at asked
      rw [failuresFrom, ih asked.2, List.zipIdx_cons, List.filter_cons]
      cases success : verdict.success with
      | true => simp [bind, Except.bind, pure, Except.pure]
      | false =>
          simp [failureEntry_eq asked.1, bind, Except.bind, pure, Except.pure]

/-- A line that is the heading of an entry. -/
def isHeading (line : Text) : Bool :=
  "### #".toList.isPrefixOf line

theorem headings_entryText (position : Nat) (verdict : Verdict) :
    (entryText position verdict).filter isHeading = [heading position verdict.content] := by
  have headed : isHeading (heading position verdict.content) = true := rfl
  have blank : isHeading [] = false := rfl
  have starred : ∀ rest : Text, isHeading ('*' :: rest) = false := fun _ => rfl
  have others : ∀ line ∈ entryDetails verdict ++ [[]], isHeading line = false := by
    rw [entryDetails]
    cases verdict.error <;> simp [blank, starred]
  rw [entryText, List.filter_cons_of_pos headed, List.filter_cons_of_neg (by simp [blank]),
    List.filter_eq_nil_iff.mpr (by simpa using others)]

/-- What is stated where every question passes. -/
def noFailures : Text :=
  "None -- all questions compiled as expected."

/-- What stands below the heading of the failures. -/
def failureSection (verdicts : List Verdict) : List Text :=
  (if failing verdicts = [] then [noFailures] else []) ++
    (failing verdicts).flatMap fun numbered => entryText numbered.2 numbered.1

/-- The failures with their heading. -/
def failureTexts (verdicts : List Verdict) : List Text :=
  "## Failures".toList :: [] :: failureSection verdicts

include asked in
theorem failureLines_eq : failureLines verdicts = .ok (failureTexts verdicts) := by
  have all : verdicts.all (·.success) = true ↔ failing verdicts = [] := by
    rw [failing_eq_nil_iff, List.all_eq_true]
  have entries : failuresFrom 1 verdicts =
      .ok ((failing verdicts).flatMap fun numbered => entryText numbered.2 numbered.1) :=
    failuresFrom_eq asked 1
  rw [failureLines, failureTexts, failureSection, entries]
  simp only [all]
  rfl

/-- There is nothing but the statement exactly if every question passes. -/
theorem failureSection_eq_iff :
    failureSection verdicts = [noFailures] ↔ ∀ verdict ∈ verdicts, verdict.success = true := by
  rw [← failing_eq_nil_iff, failureSection]
  constructor
  · intro stated
    by_contra some
    obtain ⟨first, others, listed⟩ := List.exists_cons_of_ne_nil some
    rw [if_neg some, listed] at stated
    have opening := congrArg List.head? stated
    cases opening
  · intro none
    rw [if_pos none, none]
    rfl

/-- The entry of a failure ends with a blank line. -/
theorem exists_failureSection_concat (some : failing verdicts ≠ []) :
    ∃ lines, failureSection verdicts = lines ++ [[]] := by
  obtain ⟨others, last, listed⟩ := (List.eq_nil_or_concat' (failing verdicts)).resolve_left some
  obtain ⟨lines, ended⟩ : ∃ lines, entryText last.2 last.1 = lines ++ [[]] :=
    ⟨heading last.2 last.1.content :: [] :: entryDetails last.1, rfl⟩
  rw [failureSection, if_neg some, listed, List.flatMap_append, List.flatMap_singleton, ended,
    List.nil_append, ← List.append_assoc]
  exact ⟨_, rfl⟩

/-- The failures have a heading each, in order, and there is no other heading. -/
theorem headings_failureSection (verdicts : List Verdict) :
    (failureSection verdicts).filter isHeading =
      (failing verdicts).map fun numbered => heading numbered.2 numbered.1.content := by
  have unheaded : (if failing verdicts = [] then [noFailures] else []).filter isHeading = [] := by
    split <;> rfl
  rw [failureSection, List.filter_append, unheaded, List.filter_flatMap, List.nil_append]
  simp only [headings_entryText]
  rw [← List.map_eq_flatMap]

/-! ## The whole report -/

/-- The example of the report, if there is one. -/
def exampleTexts (verdicts : List Verdict) : List Text :=
  match example? verdicts with
  | none => []
  | some verdict =>
      ["## Example SQL", [], "**Question:** *\"" ++ verdict.content ++ "\"*", [],
        "```sql", verdict.sql, "```", []]

include asked in
theorem exampleLines_eq : exampleLines verdicts = .ok (exampleTexts verdicts) := by
  rw [exampleLines, exampleTexts]
  cases found : example? verdicts with
  | none => rfl
  | some verdict =>
      have asks := asked verdict (List.mem_of_find?_eq_some found)
      dsimp only
      rw [Verdict.question_eq asks]
      rfl

/-- The lines of a report. -/
def reportLines (clock : Text) (verdicts : List Verdict) : List Text :=
  summaryLines clock verdicts ++ exampleTexts verdicts ++ tableHead ++ rowTexts verdicts ++ [[]] ++
    failureTexts verdicts

include asked in
theorem report_eq (clock : Text) :
    report clock verdicts = .ok (Text.join "\n" (reportLines clock verdicts)) := by
  rw [report, exampleLines_eq asked, rowsFrom_eq asked, failureLines_eq asked]
  rfl

/-- What a report ends with where every question passes. -/
def cleanEnding : Text :=
  "## Failures\n\nNone -- all questions compiled as expected."

/-- A report ends with the statement that there are no failures exactly if there are none. -/
theorem cleanEnding_suffix_iff {front : List Text} (nonempty : front ≠ []) :
    cleanEnding <:+ Text.join "\n" (front ++ failureTexts verdicts) ↔
      ∀ verdict ∈ verdicts, verdict.success = true := by
  rw [← failing_eq_nil_iff, failureTexts]
  constructor
  · rintro ⟨before, ends⟩
    by_contra some
    obtain ⟨lines, listed⟩ := exists_failureSection_concat some
    have blank : front ++ "## Failures".toList :: [] :: failureSection verdicts =
        (front ++ "## Failures".toList :: [] :: lines) ++ [[]] := by simp [listed]
    rw [blank, Text.join_concat (by simp), List.append_nil] at ends
    have last := congrArg List.getLast? ends
    rw [List.getLast?_append_of_ne_nil, List.getLast?_append_of_ne_nil] at last
    · cases last
    · decide
    · decide
  · intro none
    rw [failureSection, if_pos none, none, Text.join_append nonempty (by simp)]
    exact List.suffix_append_of_suffix (List.suffix_append _ _)

end Evaluation

end Inquiry
