import Inquiry.Proofs.Statement.Marks
import Inquiry.Proofs.Statement.Placeholders

/-!
# Compilations that succeed

A query that was compiled is put together from the question, the intent that was
extracted from it and the statement that was assembled for the intent.
-/

namespace Inquiry

/-- A drawn intent binds its department and then its metrics. -/
theorem Intent.Drawn.parameters_eq {vocabulary : Vocabulary} {intent : Intent}
    (drawn : intent.Drawn vocabulary) (style : ParamStyle) :
    (assemble vocabulary style intent).parameters =
      (intent.department.map Tagged.tag).toList ++ intent.metrics := by
  change (intent.conditions vocabulary.schema).flatMap (·.parameters) = _
  rw [intent.parameters_conditions, boundParams_of_drawn drawn, ite_self, List.append_nil]

theorem Intent.Drawn.length_parameters {vocabulary : Vocabulary} {intent : Intent}
    (drawn : intent.Drawn vocabulary) (style : ParamStyle) :
    (assemble vocabulary style intent).parameters.length =
      (if intent.department.isSome then 1 else 0) + intent.metrics.length := by
  rw [drawn.parameters_eq, List.length_append]
  cases intent.department <;> rfl

namespace Compiler

/-- How a question was compiled. -/
structure Run (vocabulary : Vocabulary) (job : Job) (query : CompiledQuery)
    (style : ParamStyle) (question : Text) (intent : Intent) : Prop where
  asked : job.question = .text question
  extracted : Intent.ofQuestion vocabulary question job.department job.dateRange = .ok intent
  drawn : intent.Drawn vocabulary
  explained : explain vocabulary intent (assemble vocabulary style intent).trail =
    .ok query.explanation
  sql : query.sql = (assemble vocabulary style intent).sql
  parameters : query.parameters = (assemble vocabulary style intent).parameters
  trail : query.matchedPatterns = (assemble vocabulary style intent).trail
  departmentFilter : query.departmentFilter = intent.department.map Tagged.tag
  dateFilter : query.dateFilter = Tagged.tag intent.dateRange.kind
  aggregationType : query.aggregationType = Tagged.tag intent.aggregation.kind
  limit : query.limit = ((writtenLimit? intent.limit vocabulary.limits.maximum).getD 0 : Nat)
  paramStyle : query.paramStyle = style

/-- A catalog that is given is compared with the contract, and nothing else is asked of it. -/
theorem checkCatalog_given (vocabulary : Vocabulary) (catalog : Catalog) :
    checkCatalog vocabulary (.given catalog) =
      catalog.missing vocabulary.schema >>= fun missing =>
        if missing = [] then .ok () else .error (.contractViolated missing) := by
  change (catalog.missing vocabulary.schema >>= _) = _
  cases catalog.missing vocabulary.schema with
  | error fault => rfl
  | ok missing => cases missing <;> rfl

theorem questionText_text {question : Text} (spoken : Text.strip question ≠ []) :
    questionText (.text question) = .ok question := by
  rw [questionText, if_neg (by simpa using spoken)]

theorem questionText_eq_ok {given : Value} {question : Text}
    (success : questionText given = .ok question) : given = .text question := by
  cases given with
  | text content =>
      rw [questionText] at success
      split at success
      · cases success
      · cases success
        rfl
  | _ => cases success

/-- Every query that is returned was compiled in this way. -/
theorem exists_run {surroundings : Surroundings} {job : Job} {vocabulary : Vocabulary}
    {query : CompiledQuery}
    (success : compile surroundings { job with vocabulary := some vocabulary } = .ok query) :
    ∃ style question intent, Run vocabulary job query style question intent := by
  obtain ⟨_, chosen, success⟩ := Outcome.bind_eq_ok.mp success
  obtain rfl := Outcome.pure_eq_ok.mp chosen
  obtain ⟨style, -, success⟩ := Outcome.bind_eq_ok.mp success
  obtain ⟨question, asked, success⟩ := Outcome.bind_eq_ok.mp success
  obtain ⟨_, checked, success⟩ := Outcome.bind_eq_ok.mp success
  obtain ⟨_, -, success⟩ := Outcome.bind_eq_ok.mp success
  obtain ⟨intent, extracted, success⟩ := Outcome.bind_eq_ok.mp success
  obtain ⟨_, -, success⟩ := Outcome.bind_eq_ok.mp success
  obtain ⟨explanation, explained, success⟩ := Outcome.bind_eq_ok.mp success
  obtain rfl := Outcome.pure_eq_ok.mp success
  refine ⟨style, question, intent, ?_⟩
  constructor
  case asked => exact questionText_eq_ok asked
  case extracted => exact extracted
  case drawn => exact Intent.drawn_of_question checked extracted
  case explained => exact explained
  case limit => exact Intent.limit_of_trail vocabulary style intent
  all_goals rfl

namespace Run

variable {vocabulary : Vocabulary} {job : Job} {query : CompiledQuery} {style : ParamStyle}
  {question : Text} {intent : Intent}

/-- The trail of a query that was compiled under a well-formed vocabulary. -/
theorem trail_eq (run : Run vocabulary job query style question intent)
    (wellFormed : vocabulary.WellFormed) :
    query.matchedPatterns = intent.decisions.map Mark.tag := by
  rw [run.trail, ← run.drawn.marks_eq wellFormed]
  rfl

theorem limit_eq (run : Run vocabulary job query style question intent)
    (wellFormed : vocabulary.WellFormed) : query.limit = intent.limit := by
  rw [run.limit, run.drawn.writtenLimit?_eq wellFormed]
  split <;> simp_all

end Run

/-! ## Questions about the small vocabulary -/

/-- A described table with columns of the given names. -/
def describedTable (name : Text) (columns : List Text) : Value :=
  .record
    [("table_name", .text name),
     ("columns", .list (columns.map fun column => .record [("name", .text column)]))]

/-- A question about the tables of the small vocabulary. -/
def sampleJob (question : Text) : Job where
  question := .text question
  schema := .description (.record
    [("tables", .list
      [describedTable "readings" ["site_id", "label", "amount", "taken_on", "change"],
       describedTable "sites" ["id", "title", "code"]])])
  paramStyle := .text "dollar"

/-- Compiles a question under the small vocabulary, with nothing to fall back on. -/
def compileSample (question : Text) : Except Fault CompiledQuery :=
  compile { settings := .error .blankQuestion, vocabulary := .error .blankQuestion }
    { sampleJob question with vocabulary := some Vocabulary.sampleVocabulary }

/-- A question that the small vocabulary filters, summarises, ranks and limits. -/
theorem exists_compileSample :
    ∃ query, compileSample "Most total rain of the people in spring" = .ok query ∧
      query.limit = 10 ∧ "metric_filter".toList ∈ query.matchedPatterns := by
  have told : (compileSample "Most total rain of the people in spring").toOption.map
      (fun query => (query.limit, query.matchedPatterns.contains "metric_filter".toList)) =
        some (10, true) := by
    decide +kernel
  obtain ⟨query, returned, fields⟩ := Option.map_eq_some_iff.mp told
  obtain ⟨limit, filtered⟩ := Prod.mk.inj fields
  exact ⟨query, Outcome.toOption_eq_some.mp returned, limit, List.contains_iff_mem.mp filtered⟩

end Compiler

end Inquiry
