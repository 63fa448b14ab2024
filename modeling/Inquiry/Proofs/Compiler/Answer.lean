import Inquiry.Proofs.Compiler.Outcome
import Inquiry.Proofs.Safety.Verdict

/-!
# Answers under any vocabulary

A reader of vocabularies checks names, phrases, kinds and numbers, but it takes metric names
and labels as they stand.  What is not a text among them comes to light only when a question
is compiled, and then as a fault without a report.

Metric names decide alone whether a question is answered, once labels are texts and no number
is too long to be written.
-/

namespace Inquiry

/-- Labels that are texts, and numbers of no more digits than are written. -/
structure Vocabulary.Usable (vocabulary : Vocabulary) : Prop extends vocabulary.Labelled where
  defaultRanked : vocabulary.limits.defaultRanked < 10 ^ Decimal.digitLimit
  metricCount : (vocabulary.metrics.flatMap (·.names)).length + 1 < 10 ^ Decimal.digitLimit

namespace Compiler

/-- A job that passes every check of its inputs. -/
structure Admissible (vocabulary : Vocabulary) (question : Text) (job : Job) : Prop where
  asked : job.question = .text question
  spoken : Text.strip question ≠ []
  short : question.length ≤ Request.longestQuestion
  department : checkDepartment vocabulary job.department = .ok ()
  dateRange : ∃ given : Option Text, job.dateRange = .ofOption given
  schema : ∃ catalog, job.schema = .given catalog ∧ catalog.missing vocabulary.schema = .ok []
  paramStyle : ∃ style : ParamStyle, job.paramStyle = .text (Tagged.tag style)

/-- A query, or a fault that carries a report for the caller. -/
def Answered (outcome : Except Fault CompiledQuery) : Prop :=
  ∀ fault, outcome = .error fault → fault.report?.isSome = true

variable {vocabulary : Vocabulary} {question : Text} {job : Job}

theorem style_tag (surroundings : Surroundings) (style : ParamStyle) :
    Compiler.style surroundings (.text (Tagged.tag style)) = .ok style := by
  cases style <;> rfl

/-- Behind the checks of its inputs, a job is an extraction and the compilation of what was
extracted. -/
theorem Admissible.compile_eq (admissible : Admissible vocabulary question job)
    (surroundings : Surroundings) :
    ∃ style : ParamStyle, compile surroundings { job with vocabulary := some vocabulary } =
      Intent.ofQuestion vocabulary question job.department job.dateRange >>=
        compileIntent vocabulary style := by
  obtain ⟨style, styled⟩ := admissible.paramStyle
  obtain ⟨catalog, given, satisfied⟩ := admissible.schema
  have checked : checkCatalog vocabulary job.schema = .ok () := by
    rw [given, checkCatalog_given, satisfied]
    rfl
  refine ⟨style, ?_⟩
  rw [compile]
  simp only [styled, style_tag, pure, Except.pure, bind, Except.bind, compileWith,
    admissible.asked, questionText_text admissible.spoken, admissible.department, checked]

/-- What the gate has judged is answered: with a query, or with what it found. -/
theorem answered_of_judged {style : ParamStyle} {intent : Intent}
    {violations : List Safety.Violation} (labelled : vocabulary.Labelled)
    (judged : Safety.check vocabulary (some style) (assemble vocabulary style intent).sql
      ((assemble vocabulary style intent).parameters.map .text) = .ok violations) :
    Answered (compileIntent vocabulary style intent) := by
  obtain ⟨explanation, explained⟩ := exists_explain labelled intent
    (assemble vocabulary style intent).trail
  intro fault failed
  rw [compileIntent, checkSafety, judged] at failed
  cases violations with
  | nil =>
      simp only [bind, Except.bind, pure, Except.pure, explained] at failed
      cases failed
  | cons first rest =>
      cases failed
      rfl

/-- The metrics that a question names are texts. -/
theorem texts_iff (accepted : ∃ raw, Vocabulary.read raw = .ok vocabulary) :
    (∀ name ∈ Extraction.metrics vocabulary (Text.strip (Text.lower question)),
        name.text?.isSome = true) ↔
      ∀ rule ∈ vocabulary.metrics, Text.occurs rule.keyword (Text.lower question) = true →
        ∀ name ∈ rule.names, name.text?.isSome = true := by
  obtain ⟨raw, accepted⟩ := accepted
  have keywords : ∀ rule ∈ vocabulary.metrics, Text.strip rule.keyword = rule.keyword :=
    fun rule member => (Vocabulary.metricKeywords_of_read accepted rule member).stripped
  simp only [Extraction.mem_metrics keywords]
  constructor
  · exact fun all rule member occurs name listed => all name ⟨rule, member, occurs, listed⟩
  · rintro all name ⟨rule, member, occurs, listed⟩
    exact all rule member occurs name listed

end Compiler

/-- An admissible question is answered, with a query or with a report of why there is none,
exactly when all metrics that it names are texts. -/
theorem answered_iff_metrics_texts {raw : Value} {vocabulary : Vocabulary}
    (accepted : Vocabulary.read raw = .ok vocabulary) (usable : vocabulary.Usable)
    {question : Text} {job : Job} (admissible : Compiler.Admissible vocabulary question job)
    (surroundings : Surroundings) :
    Compiler.Answered
        (Compiler.compile surroundings { job with vocabulary := some vocabulary }) ↔
      ∀ rule ∈ vocabulary.metrics, Text.occurs rule.keyword (Text.lower question) = true →
        ∀ name ∈ rule.names, name.text?.isSome = true := by
  obtain ⟨style, compiled⟩ := admissible.compile_eq surroundings
  obtain ⟨window, windowGiven⟩ := admissible.dateRange
  rw [compiled, ← Compiler.texts_iff ⟨raw, accepted⟩, windowGiven]
  constructor
  · intro answered name named
    by_contra untyped
    obtain ⟨issues, refused⟩ := Intent.exists_issues admissible.short admissible.department
      window named (by simpa using untyped)
    rw [refused] at answered
    exact absurd (answered _ rfl) (by simp [Fault.report?])
  · intro texts
    obtain ⟨intent, extracted⟩ :=
      Intent.exists_extracted admissible.short admissible.department window texts
    obtain ⟨named, limited⟩ := Intent.of_extracted extracted
    have drawn := Intent.drawn_of_question admissible.department extracted
    have small : intent.limit < 10 ^ Decimal.digitLimit := by
      rcases limited with read | default
      · exact read
      · rw [default]
        exact usable.defaultRanked
    have count := (Extraction.metrics_sublist vocabulary
      (Text.strip (Text.lower question))).length_le
    have few : (assemble vocabulary style intent).parameters.length <
        10 ^ Decimal.digitLimit := by
      rw [drawn.length_parameters]
      rw [named, List.length_map] at count
      have bound := usable.metricCount
      split <;> omega
    obtain ⟨violations, judged⟩ :=
      (Vocabulary.wellFormed_of_read accepted).exists_check drawn style
        (drawn.direction_ne (Vocabulary.sorted_of_read accepted)) small few
    rw [extracted, Outcome.ok_bind]
    exact Compiler.answered_of_judged usable.toLabelled judged

namespace Compiler

/-- A catalog of the two tables of the small vocabulary. -/
def sampleCatalog : Catalog where
  tables :=
    (Catalog.single "readings" ["site_id", "label", "amount", "taken_on", "change"]).tables ++
      (Catalog.single "sites" ["id", "title", "code"]).tables

/-- A question about that catalog, without overrides. -/
def catalogJob (question : Text) : Job where
  question := .text question
  schema := .given sampleCatalog
  paramStyle := .text "dollar"

theorem admissible_catalogJob {question : Text} (spoken : Text.strip question ≠ [])
    (short : question.length ≤ Request.longestQuestion)
    (schema : vocabulary.schema = Vocabulary.sampleVocabulary.schema) :
    Admissible vocabulary question (catalogJob question) where
  asked := rfl
  spoken := spoken
  short := short
  department := rfl
  dateRange := ⟨none, rfl⟩
  schema := by
    refine ⟨sampleCatalog, rfl, ?_⟩
    rw [schema]
    with_unfolding_all rfl
  paramStyle := ⟨.dollar, rfl⟩

theorem usable_sampleVocabulary : Vocabulary.sampleVocabulary.Usable where
  dateRanges := by decide
  aggregations := by decide
  defaultRanked :=
    calc 10 < 10 ^ 2 := by decide
      _ ≤ 10 ^ Decimal.digitLimit := Nat.pow_le_pow_right (by decide) (by decide)
  metricCount :=
    calc 3 < 10 ^ 1 := by decide
      _ ≤ 10 ^ Decimal.digitLimit := Nat.pow_le_pow_right (by decide) (by decide)

theorem answered_sample : Answered (compile unaided
    { catalogJob "Rain in spring" with vocabulary := some Vocabulary.sampleVocabulary }) := by
  have admissible : Admissible Vocabulary.sampleVocabulary "Rain in spring"
      (catalogJob "Rain in spring") := admissible_catalogJob (by decide) (by decide) rfl
  have texts : ∀ rule ∈ Vocabulary.sampleVocabulary.metrics, ∀ name ∈ rule.names,
      name.text?.isSome = true := by
    decide
  exact (answered_iff_metrics_texts Vocabulary.read_sampleSource usable_sampleVocabulary
    admissible unaided).mpr fun rule member _ => texts rule member

/-- A source whose metric name and label are numbers. -/
def numberedSource : Value := .record
  [("schema", ((Vocabulary.sampleSource.entries.toOption).bind
     (Value.lookup? "schema")).getD .null),
   ("date_ranges", .list
     [.record [("kind", .text "q1"), ("phrases", .texts ["spring"]),
       ("predicate", .text "\x7bdate\x7d < 4"), ("label", .int 2024)]]),
   ("metrics", .list
     [.record [("keyword", .text "rain"), ("names", .list [.int 2024])]])]

/-- The vocabulary that `numberedSource` describes. -/
def numberedVocabulary : Vocabulary where
  version := .int 1
  schema := Vocabulary.sampleVocabulary.schema
  departments := []
  dateRanges :=
    [{ kind := .q1, phrases := ["spring"], predicate := "r.taken_on < 4", label := .int 2024 }]
  aggregations := []
  metrics := [{ keyword := "rain", names := [.int 2024] }]
  comparisons := []
  limits := { patterns := [], defaultRanked := 10, maximum := 1000 }

set_option maxRecDepth 20000 in
theorem read_numberedSource : Vocabulary.read numberedSource = .ok numberedVocabulary := by
  with_unfolding_all rfl

/-- Neither the metric nor the date window of that vocabulary can be asked for. -/
theorem numbered_unanswered :
    Vocabulary.read numberedSource = .ok numberedVocabulary ∧
      (Admissible numberedVocabulary "rain" (catalogJob "rain") ∧
        ¬Answered (compile unaided
          { catalogJob "rain" with vocabulary := some numberedVocabulary })) ∧
      (Admissible numberedVocabulary "spring" (catalogJob "spring") ∧
        ¬Answered (compile unaided
          { catalogJob "spring" with vocabulary := some numberedVocabulary })) := by
  have rain : compile unaided { catalogJob "rain" with vocabulary := some numberedVocabulary } =
      .error (.invalid [{ path := [.field "metrics", .item 0], cause := .notText }]) := by
    with_unfolding_all rfl
  have spring : compile unaided
      { catalogJob "spring" with vocabulary := some numberedVocabulary } = .error .wrongType := by
    with_unfolding_all rfl
  refine ⟨read_numberedSource, ⟨admissible_catalogJob (by decide) (by decide) rfl, ?_⟩,
    admissible_catalogJob (by decide) (by decide) rfl, ?_⟩
  · intro answered
    exact absurd (answered _ rain) (by simp [Fault.report?])
  · intro answered
    exact absurd (answered _ spring) (by simp [Fault.report?])

end Compiler

end Inquiry
