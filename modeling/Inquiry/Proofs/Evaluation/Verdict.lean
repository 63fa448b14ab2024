import Inquiry.Evaluation.Verdict
import Inquiry.Proofs.Safety.Numbering
import Inquiry.Proofs.Safety.Verdict

/-!
# Judging a question

A record is judged in one of two ways: its question was compiled, and the query is compared with
what the record expects, or it was refused.  The gate has seen to it that a query has as many
placeholders as parameters, so the sixth comparison never decides a verdict.
-/

namespace Inquiry

/-- Every query is compiled under some vocabulary. -/
theorem Compiler.exists_vocabulary {surroundings : Surroundings} {job : Job}
    {query : CompiledQuery} (success : compile surroundings job = .ok query) :
    ∃ vocabulary,
      compile surroundings { job with vocabulary := some vocabulary } = .ok query := by
  cases chosen : job.vocabulary with
  | some vocabulary => exact ⟨vocabulary, by rwa [← chosen]⟩
  | none =>
      rw [compile, chosen] at success
      obtain ⟨vocabulary, -, later⟩ := Outcome.bind_eq_ok.mp success
      exact ⟨vocabulary, later⟩

theorem Safety.countPlaceholders_strip (style : ParamStyle) (text : Text) :
    countPlaceholders (some style) (Text.strip text) = countPlaceholders (some style) text := by
  cases style with
  | dollar => exact congrArg List.length (numberedMarks_strip text)
  | qmark =>
      obtain ⟨before, after, parted, blankBefore, blankAfter⟩ := Text.exists_eq_strip text
      have none : ∀ blanks : Text, (∀ c ∈ blanks, Text.isBlank c = true) →
          blanks.count '?' = 0 := by
        intro blanks all
        refine List.count_eq_zero.mpr fun member => ?_
        cases all '?' member
      have counted := congrArg (List.count '?') parted
      rw [List.count_append, List.count_append, none before blankBefore, none after blankAfter,
        Nat.zero_add, Nat.add_zero] at counted
      exact counted.symm

/-- A query that is returned has as many placeholders as parameters. -/
theorem Compiler.placeholders_of_compile {surroundings : Surroundings} {job : Job}
    {query : CompiledQuery} (success : compile surroundings job = .ok query) :
    Safety.countPlaceholders (some query.paramStyle) query.sql = query.parameters.length := by
  obtain ⟨vocabulary, compiled⟩ := exists_vocabulary success
  have agree := (passed_of_compile compiled).placeholders_agree
  rwa [Safety.countPlaceholders_strip, List.length_map] at agree

namespace Verdict

/-- What a record asks to compile. -/
def asked (schema question : Value) (entries : List (Value × Value)) : Job where
  question
  schema := .description schema
  department := (Value.lookup? "department" entries).getD .null
  dateRange := (Value.lookup? "date_range" entries).getD .null

/-- How a record is judged whose compilation takes the given time. -/
inductive Judged (surroundings : Surroundings) (schema record : Value) (latency : Int) :
    Verdict → Prop where
  | compiled {question : Value} {entries : List (Value × Value)} {query : CompiledQuery}
      (listed : record.entries = .ok entries)
      (given : Value.lookup? "question" entries = some question)
      (compiles : Compiler.compile surroundings (asked schema question entries) = .ok query) :
      Judged surroundings schema record latency (ofQuery question entries query latency)
  | refused {question : Value} {entries : List (Value × Value)} {fault : Fault} {report : Report}
      (listed : record.entries = .ok entries)
      (given : Value.lookup? "question" entries = some question)
      (refuses : Compiler.compile surroundings (asked schema question entries) = .error fault)
      (reported : fault.report? = some report) :
      Judged surroundings schema record latency
        (Verdict.refused question report.message latency)

variable {surroundings : Surroundings} {schema record : Value} {latency : Int} {verdict : Verdict}

theorem judged_of_ofRecord (success : ofRecord surroundings schema record latency = .ok verdict) :
    Judged surroundings schema record latency verdict := by
  obtain ⟨entries, listed, success⟩ := Outcome.bind_eq_ok.mp success
  cases given : Value.lookup? "question" entries with
  | none =>
      simp only [given] at success
      cases success
  | some question =>
      simp only [given] at success
      cases compiles : Compiler.compile surroundings (asked schema question entries) with
      | ok query =>
          rw [asked] at compiles
          simp only [compiles] at success
          obtain rfl := Outcome.pure_eq_ok.mp success
          exact .compiled listed given compiles
      | error fault =>
          cases reported : fault.report? with
          | none =>
              rw [asked] at compiles
              simp only [compiles, reported] at success
              cases success
          | some report =>
              rw [asked] at compiles
              simp only [compiles, reported] at success
              obtain rfl := Outcome.pure_eq_ok.mp success
              exact .refused listed given compiles reported

theorem Judged.ofRecord_eq (judged : Judged surroundings schema record latency verdict) :
    ofRecord surroundings schema record latency = .ok verdict := by
  cases judged with
  | compiled listed given compiles =>
      rw [asked] at compiles
      rw [ofRecord, listed, Outcome.ok_bind]
      simp only [given, compiles]
      rfl
  | refused listed given refuses reported =>
      rw [asked] at refuses
      rw [ofRecord, listed, Outcome.ok_bind]
      simp only [given, refuses, reported]
      rfl

/-- The comparisons other than that of placeholders and parameters. -/
def comparisons (verdict : Verdict) : List Bool :=
  [verdict.departmentOk, verdict.dateOk, verdict.aggregationOk, verdict.limitOk,
    verdict.patternsOk]

/-- Of a query that was compiled, the placeholders agree with the parameters, and the verdict
depends on the other five comparisons alone. -/
theorem Judged.success_iff (judged : Judged surroundings schema record latency verdict)
    (accepted : verdict.error = none) :
    verdict.parityOk = true ∧
      (verdict.success = true ↔ ∀ holds ∈ verdict.comparisons, holds = true) := by
  cases judged with
  | @compiled question entries query listed given compiles =>
      have parity : (ofQuery question entries query latency).parityOk = true :=
        beq_iff_eq.mpr (Compiler.placeholders_of_compile compiles)
      have success : (ofQuery question entries query latency).success =
          ((ofQuery question entries query latency).comparisons.all id &&
            (ofQuery question entries query latency).parityOk) := by
        simp [ofQuery, comparisons, Bool.and_assoc]
      rw [success, parity, Bool.and_true, List.all_eq_true]
      exact ⟨rfl, Iff.rfl⟩
  | refused => cases accepted

end Verdict

end Inquiry
