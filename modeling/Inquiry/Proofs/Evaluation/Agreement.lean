import Inquiry.Evaluation.Samples
import Inquiry.Proofs.Evaluation.Lines

/-!
# Accounts of a run

A run tells what it found in five places: the lines that it prints, its exit code, and in the
report the summary, the table and the failures.  Each of them is drawn up on its own, and they
agree.

A run that completes leaves behind what its verdicts determine, so the places are compared as
functions of the verdicts, whatever the questions are.  That a reader of the two texts finds the
same lines is said apart, since a question can break a line.
-/

namespace Inquiry.Evaluation

/-! ## Judging in order -/

/-- A record and its place are judged, and the question is a text. -/
structure Answered (surroundings : Surroundings) (schema : Value) (latency : Nat → Int)
    (numbered : Value × Nat) (verdict : Verdict) : Prop where
  judged : Verdict.Judged surroundings schema numbered.1 (latency numbered.2) verdict
  asks : ∃ content, verdict.question = .text content

/-- What verdicts leave behind. -/
def Outcome.ofVerdicts (clock reportPath : Text) (verdicts : List Verdict) : Outcome where
  code := exitCode verdicts
  output := (outputLines reportPath verdicts).flatMap (· ++ "\n")
  report := Text.join "\n" (reportLines clock verdicts)

section Answered

variable {surroundings : Surroundings} {schema : Value} {latency : Nat → Int}
  {questions : List Value}

/-- Records are judged one by one, and a line is printed for each. -/
theorem judgeFrom_eq_ok {total position : Nat} {judged : List (Verdict × Text)} :
    judgeFrom surroundings schema latency total position questions = .ok judged ↔
      ∃ verdicts, List.Forall₂ (Answered surroundings schema latency)
          (questions.zipIdx position) verdicts ∧
        judged = (verdicts.zipIdx position).map fun numbered =>
          (numbered.1, progressText numbered.2 total numbered.1) := by
  induction questions generalizing position judged with
  | nil =>
      simp only [judgeFrom, List.zipIdx_nil, List.forall₂_nil_left_iff, exists_eq_left,
        List.map_nil, Except.ok.injEq]
      exact eq_comm
  | cons record rest ih =>
      constructor
      · intro judging
        obtain ⟨verdict, found, judging⟩ := Outcome.bind_eq_ok.mp judging
        obtain ⟨line, printed, judging⟩ := Outcome.bind_eq_ok.mp judging
        obtain ⟨others, later, judging⟩ := Outcome.bind_eq_ok.mp judging
        obtain rfl := Outcome.pure_eq_ok.mp judging
        obtain ⟨asks, rfl⟩ := progressLine_eq_ok.mp printed
        obtain ⟨verdicts, answered, rfl⟩ := ih.mp later
        exact ⟨verdict :: verdicts, .cons ⟨Verdict.judged_of_ofRecord found, asks⟩ answered, rfl⟩
      · rintro ⟨verdicts, answered, rfl⟩
        rw [List.zipIdx_cons, List.forall₂_cons_left_iff] at answered
        obtain ⟨verdict, others, first, later, rfl⟩ := answered
        have printed := progressLine_eq_ok.mpr
          (⟨first.asks, rfl⟩ : _ ∧ progressText position total verdict = _)
        rw [judgeFrom, first.judged.ofRecord_eq, Outcome.ok_bind, printed, Outcome.ok_bind,
          ih.mpr ⟨others, later, rfl⟩]
        rfl

theorem answered_of_mem {position : Nat} {verdicts : List Verdict}
    (answered : List.Forall₂ (Answered surroundings schema latency)
      (questions.zipIdx position) verdicts) :
    ∀ verdict ∈ verdicts, ∃ numbered, Answered surroundings schema latency numbered verdict :=
  ((List.forall₂_and_left _ _).mp
    (answered.flip.imp fun _ numbered own => ⟨⟨numbered, own⟩, own⟩)).1

theorem run_eq_of_answered {verdicts : List Verdict} (clock reportPath : Text)
    (answered : List.Forall₂ (Answered surroundings schema latency)
      (questions.zipIdx 1) verdicts) :
    run surroundings clock reportPath latency questions schema =
      .ok (Outcome.ofVerdicts clock reportPath verdicts) := by
  have total : questions.length = verdicts.length := by
    rw [← answered.length_eq, List.length_zipIdx]
  have asked : ∀ verdict ∈ verdicts, ∃ content, verdict.question = .text content := by
    intro verdict member
    obtain ⟨numbered, own⟩ := answered_of_mem answered verdict member
    exact own.asks
  have judged : ((verdicts.zipIdx 1).map fun numbered =>
      (numbered.1, progressText numbered.2 verdicts.length numbered.1)).map (·.1) = verdicts := by
    rw [List.map_map]
    exact List.zipIdx_map_fst 1 verdicts
  have printed : ((verdicts.zipIdx 1).map fun numbered =>
      (numbered.1, progressText numbered.2 verdicts.length numbered.1)).map (·.2) =
        progressTexts verdicts := by
    rw [List.map_map]
    rfl
  rw [run, total, judgeFrom_eq_ok.mpr ⟨verdicts, answered, rfl⟩, Outcome.ok_bind, judged, printed]
  dsimp only
  rw [report_eq asked, Outcome.ok_bind]
  rfl

/-- A run completes exactly if every record is judged and asks a text, and what it leaves behind
depends on the verdicts alone. -/
theorem run_eq_ok {clock reportPath : Text} {outcome : Outcome} :
    run surroundings clock reportPath latency questions schema = .ok outcome ↔
      ∃ verdicts, List.Forall₂ (Answered surroundings schema latency)
          (questions.zipIdx 1) verdicts ∧
        outcome = Outcome.ofVerdicts clock reportPath verdicts := by
  constructor
  · intro completes
    obtain ⟨judged, judging, -⟩ := Outcome.bind_eq_ok.mp completes
    obtain ⟨verdicts, answered, -⟩ := judgeFrom_eq_ok.mp judging
    rw [run_eq_of_answered clock reportPath answered] at completes
    exact ⟨verdicts, answered, (Except.ok.inj completes).symm⟩
  · rintro ⟨verdicts, answered, rfl⟩
    exact run_eq_of_answered clock reportPath answered

end Answered

/-! ## Agreement -/

/-- The places agree with each other, and all of them with the exit code. -/
structure Agrees (surroundings : Surroundings) (schema : Value) (clock reportPath : Text)
    (latency : Nat → Int) (questions : List Value) (verdicts : List Verdict)
    (outcome : Outcome) : Prop where
  /-- There is a verdict for every question, in order. -/
  answered : List.Forall₂ (Answered surroundings schema latency) (questions.zipIdx 1) verdicts
  compiled : ∀ verdict ∈ verdicts, verdict.error = none →
    verdict.parityOk = true ∧
      (verdict.success = true ↔ ∀ holds ∈ verdict.comparisons, holds = true)
  output : outcome.output = (outputLines reportPath verdicts).flatMap (· ++ "\n".toList)
  report : outcome.report = Text.join "\n" (reportLines clock verdicts)
  statuses : (progressTexts verdicts).map status = verdicts.map statusOf
  code_iff_statuses : outcome.code = 0 ↔
    ∀ line ∈ progressTexts verdicts, status line = "PASS".toList
  code_iff_failures : outcome.code = 0 ↔ failureSection verdicts = [noFailures]
  code_iff_ending : outcome.code = 0 ↔ cleanEnding <:+ outcome.report
  code_iff_counts : outcome.code = 0 ↔ verdicts.countP (·.success) = verdicts.length
  count : lastLine? outcome.output =
    some ("  Success: " ++ Decimal.ofNat (verdicts.countP (·.success)) ++ "/" ++
      Decimal.ofNat verdicts.length)
  overall : ∃ percent, (summaryLines clock verdicts).filter isOverall =
      [overallLine percent (verdicts.countP (·.success)) verdicts.length] ∧
    (clock.Unbroken → overallOf? outcome.report =
      some (overallLine percent (verdicts.countP (·.success)) verdicts.length))
  cells : List.Forall₂
    (fun line row => passCell row = some " OK ".toList ↔ status line = "PASS".toList)
    (progressTexts verdicts) (rowTexts verdicts)
  increasing : ((failing verdicts).map (·.2)).Pairwise (· < ·)
  mem_places : ∀ place, place ∈ (failing verdicts).map (·.2) ↔
    1 ≤ place ∧ ((progressTexts verdicts)[place - 1]?).map status = some "FAIL".toList
  /-- Every place that fails has one heading, in order, and there is no other. -/
  headings : (failureSection verdicts).filter isHeading =
    (failing verdicts).map fun numbered => heading numbered.2 numbered.1.content
  /-- A reader finds the lines that are compared, if no question and no message breaks one. -/
  readBack : (∀ verdict ∈ verdicts, verdict.IsUnbroken) →
    progressOf outcome.output = progressTexts verdicts ∧
      rowsOf outcome.report = rowTexts verdicts ∧
      failuresOf outcome.report = failureSection verdicts

theorem exitCode_eq_zero_iff {verdicts : List Verdict} :
    exitCode verdicts = 0 ↔ ∀ verdict ∈ verdicts, verdict.success = true := by
  rw [exitCode, ← List.countP_eq_length]
  split
  next equal => exact iff_of_true rfl equal
  next differ => exact iff_of_false (by decide) differ

section Statuses

variable (verdicts : List Verdict)

theorem forall_pass_iff : (∀ verdict ∈ verdicts, verdict.success = true) ↔
    ∀ line ∈ progressTexts verdicts, status line = "PASS".toList := by
  have each : (∀ line ∈ progressTexts verdicts, status line = "PASS".toList) ↔
      ∀ told ∈ (progressTexts verdicts).map status, told = "PASS".toList := by
    rw [List.forall_mem_map]
  rw [each, map_status, List.forall_mem_map]
  exact forall₂_congr fun verdict _ => statusOf_eq_pass_iff.symm

theorem forall₂_cells : List.Forall₂
    (fun line row => passCell row = some " OK ".toList ↔ status line = "PASS".toList)
    (progressTexts verdicts) (rowTexts verdicts) := by
  rw [progressTexts, rowTexts, List.forall₂_map_left_iff, List.forall₂_map_right_iff]
  refine List.forall₂_same.mpr fun numbered _ => ?_
  rw [passCell_eq_ok_iff, status_progressText, statusOf_eq_pass_iff]

theorem mem_places_iff (place : Nat) : place ∈ (failing verdicts).map (·.2) ↔
    1 ≤ place ∧ ((progressTexts verdicts)[place - 1]?).map status = some "FAIL".toList := by
  have listed : place ∈ (failing verdicts).map (·.2) ↔
      ∃ verdict, (verdict, place) ∈ failing verdicts := by simp
  rw [listed, ← List.getElem?_map, map_status, List.getElem?_map]
  simp only [mem_failing, Option.map_eq_some_iff, statusOf_eq_fail_iff]
  tauto

end Statuses

/-- A run that completes tells one thing in all places. -/
theorem run_agrees {surroundings : Surroundings} {schema : Value} {clock reportPath : Text}
    {latency : Nat → Int} {questions : List Value} {outcome : Outcome}
    (completes : run surroundings clock reportPath latency questions schema = .ok outcome) :
    ∃ verdicts, Agrees surroundings schema clock reportPath latency questions verdicts
      outcome := by
  obtain ⟨verdicts, answered, rfl⟩ := run_eq_ok.mp completes
  refine ⟨verdicts, ?_⟩
  constructor
  case answered => exact answered
  case compiled =>
    intro verdict member accepted
    obtain ⟨numbered, own⟩ := answered_of_mem answered verdict member
    exact own.judged.success_iff accepted
  case output => rfl
  case report => rfl
  case statuses => exact map_status verdicts
  case code_iff_statuses => rw [← forall_pass_iff]; exact exitCode_eq_zero_iff
  case code_iff_failures => rw [failureSection_eq_iff]; exact exitCode_eq_zero_iff
  case code_iff_ending => exact exitCode_eq_zero_iff.trans (cleanEnding_suffix_iff (by simp)).symm
  case code_iff_counts => rw [List.countP_eq_length]; exact exitCode_eq_zero_iff
  case count => exact lastLine?_eq rfl
  case overall => exact exists_overallLine clock verdicts
  case cells => exact forall₂_cells verdicts
  case increasing => exact pairwise_failing verdicts
  case mem_places => exact mem_places_iff verdicts
  case headings => exact headings_failureSection verdicts
  case readBack =>
    intro unbroken
    exact ⟨progressOf_eq rfl fun verdict member => (unbroken verdict member).content,
      rowsOf_eq unbroken rfl, failuresOf_eq unbroken rfl⟩

/-- The standard settings and the bundled vocabulary. -/
def standard : Surroundings where
  settings := .ok {}
  vocabulary := .ok Vocabulary.bundled

/-- A record of a question alone. -/
def recordOf (content : Text) : Value :=
  .record [("question", .text content)]

/-- One question that is compiled and one that is refused. -/
theorem run_agrees_hello : ∃ outcome,
    run standard "now" "report.md" (fun place => 3 * place)
        [recordOf "hello", recordOf " "] sampleCatalog = .ok outcome ∧
      ∃ verdicts, Agrees standard sampleCatalog "now" "report.md" (fun place => 3 * place)
        [recordOf "hello", recordOf " "] verdicts outcome := by
  obtain ⟨query, compiles⟩ : ∃ query, Compiler.compile standard
      (Verdict.asked sampleCatalog (.text "hello") [(.text "question", .text "hello")]) =
        .ok query :=
    Outcome.exists_of_isSome (by decide +kernel)
  have answered : ∃ verdicts, List.Forall₂
      (Answered standard sampleCatalog fun place => 3 * place)
      ([recordOf "hello", recordOf " "].zipIdx 1) verdicts :=
    ⟨_, .cons ⟨.compiled rfl rfl compiles, _, rfl⟩
      (.cons ⟨.refused rfl rfl rfl rfl, _, rfl⟩ .nil)⟩
  obtain ⟨verdicts, answered⟩ := answered
  have completes := run_eq_of_answered "now" "report.md" answered
  exact ⟨_, completes, run_agrees completes⟩

end Inquiry.Evaluation
