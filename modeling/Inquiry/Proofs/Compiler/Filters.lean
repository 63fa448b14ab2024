import Inquiry.Proofs.Compiler.Account
import Inquiry.Proofs.Safety.Verdict
import Inquiry.Proofs.Statement.Tests

/-!
# Filters and the date condition

The trail of a query promises a department filter and a metric filter, each a test of its own
in the condition of the text.  The date condition of a vocabulary stands between them as it was
given, without parentheses.

So the tests hold of every row that is selected only if the date condition has no disjunction
of its own and closes what it opens.
-/

namespace Inquiry

open Statement (conjunction)

/-! ## What the text of a query asks for -/

namespace CompiledQuery

variable (vocabulary : Vocabulary) (query : CompiledQuery)

/-- The test of the department that the trail names. -/
def departmentTest : Text :=
  let dimension := vocabulary.schema.dimension
  (Condition.equals (dimension.column dimension.code) (query.departmentFilter.getD [])).render
    query.paramStyle 0

/-- The test of the metrics that the trail names.  The parameters of the metrics come behind
that of the department. -/
def metricTest : Text :=
  let fact := vocabulary.schema.fact
  (Condition.among (fact.column fact.metricName) query.metrics).render query.paramStyle
    (if query.marked .departmentFilter then 1 else 0)

/-- The date condition of the window that the trail names. -/
def datePredicate : Text :=
  ((query.window? vocabulary).map (·.predicate)).getD []

/-- How many lines the text has behind its condition: the group keys if something is
summarised, the order of the rows, and the row limit if there is one. -/
def closingLines : Nat :=
  (if (query.summary? vocabulary).isSome then 1 else 0) + 1 +
    if query.marked .limitResults then 1 else 0

/-- The condition of the text: what stands between its keyword, at the beginning of a line, and
the closing lines. -/
def condition : Text :=
  let lines := (Text.pieces '\n' query.sql).dropWhile fun line => !"WHERE ".toList.isPrefixOf line
  (Text.join "\n" (lines.take (lines.length - query.closingLines vocabulary))).drop "WHERE ".length

end CompiledQuery

/-! ## The condition of a statement -/

theorem Text.join_pieces (mark : Char) (text : Text) : join [mark] (pieces mark text) = text := by
  induction text with
  | nil => rfl
  | cons c rest ih =>
      obtain ⟨first, others, found⟩ := List.exists_cons_of_ne_nil (pieces_ne_nil mark rest)
      rw [found] at ih
      rw [pieces, found]
      by_cases same : c = mark
      · simp [same, ih]
      · cases others with
        | nil => simp_all
        | cons second others => simp_all

namespace Intent

variable {vocabulary : Vocabulary} {intent : Intent}

/-- The texts of the conditions, which are joined to the condition of the statement. -/
def tests (contract : SchemaContract) (style : ParamStyle) (intent : Intent) :
    Option Text × Option Text :=
  (intent.department.map fun department =>
      (Condition.equals (contract.dimension.column contract.dimension.code)
        (Tagged.tag department)).render style 0,
    if intent.metrics = [] then none
    else some ((Condition.among (contract.fact.column contract.fact.metricName)
      intent.metrics).render style (if intent.department.isSome then 1 else 0)))

theorem join_conditions (contract : SchemaContract) (style : ParamStyle)
    (unbound : intent.dateRange.boundParams = []) :
    Text.join conjunction (Condition.renderAll style 0 (intent.conditions contract)) =
      Text.between (intent.tests contract style).1 intent.dateRange.predicate
        (intent.tests contract style).2 := by
  rw [Text.between]
  congr 1
  obtain ⟨department, ⟨kind, predicate, boundParams⟩, aggregation, metrics, comparison, limit⟩ :=
    intent
  obtain rfl : boundParams = [] := unbound
  cases department <;> cases predicate <;> cases metrics <;>
    simp [conditions, tests, Condition.renderAll, Condition.parameters, Condition.render]

end Intent

theorem Statement.isPrefixOf_where_eq_false {line : Text} (head : line.head? ≠ some 'W') :
    "WHERE ".toList.isPrefixOf line = false := by
  rw [← Bool.not_eq_true, List.isPrefixOf_iff_prefix]
  exact not_where_of_head head

/-- From the keyword of the conditions on, the lines of a statement are those of its condition
and of the clauses behind it. -/
theorem Statement.dropWhile_pieces (statement : Statement) (style : ParamStyle)
    (before : ∀ name ∈ statement.namesBefore, '\n' ∉ name)
    (after : ∀ name ∈ statement.namesAfter, '\n' ∉ name) (present : statement.conditions ≠ []) :
    (Text.pieces '\n' (statement.render style)).dropWhile
        (fun line => !"WHERE ".toList.isPrefixOf line) =
      Text.pieces '\n' ("WHERE ".toList ++
          Text.join conjunction (Condition.renderAll style 0 statement.conditions)) ++
        statement.closingClauses := by
  have opening : ∀ line ∈ statement.openingClauses.flatMap (Text.pieces '\n'),
      (!"WHERE ".toList.isPrefixOf line) = true := by
    intro line member
    rw [isPrefixOf_where_eq_false (head?_of_mem_opening before line member), Bool.not_false]
  have keyword : '\n' ∉ "WHERE ".toList := by decide
  obtain ⟨first, others, -, written⟩ := Text.exists_pieces_append keyword
    (Text.join conjunction (Condition.renderAll style 0 statement.conditions))
  rw [pieces_render, flatMap_pieces_of_not_mem (lineFeed_not_mem_closing after),
    clause_conditions style present, List.flatMap_singleton, List.append_assoc,
    List.dropWhile_append_of_pos opening]
  change (Text.pieces '\n' ("WHERE ".toList ++ Text.join conjunction _) ++ _).dropWhile _ = _
  rw [written, List.cons_append, List.dropWhile_cons_of_neg (by simp)]

theorem Statement.length_closingClauses (statement : Statement) :
    statement.closingClauses.length = (if statement.groupKeys ≠ [] then 1 else 0) + 1 +
      if statement.limit.isSome then 1 else 0 := by
  have groups : (clause "GROUP BY " ", " statement.groupKeys).length =
      if statement.groupKeys ≠ [] then 1 else 0 := by
    rw [clause]
    cases statement.groupKeys <;> rfl
  rw [closingClauses, List.length_append, List.length_append, groups, List.length_singleton,
    Option.length_toList, Option.isSome_map]

namespace Compiler.Run

variable {vocabulary : Vocabulary} {job : Job} {query : CompiledQuery} {style : ParamStyle}
  {question : Text} {intent : Intent}

theorem closingLines_eq (run : Run vocabulary job query style question intent)
    (wellFormed : vocabulary.WellFormed) :
    query.closingLines vocabulary = (intent.statement vocabulary).closingClauses.length := by
  have limited : query.marked .limitResults =
      (writtenLimit? intent.limit vocabulary.limits.maximum).isSome := by
    rw [CompiledQuery.marked, run.trail, intent.contains_limitResults]
  rw [CompiledQuery.closingLines, run.summary?_eq wellFormed, limited,
    Statement.length_closingClauses]
  exact congrArg (· + 1 + _) (if_congr Intent.groupKeys_ne_nil.symm rfl rfl)

theorem datePredicate_eq (run : Run vocabulary job query style question intent)
    (wellFormed : vocabulary.WellFormed) :
    query.datePredicate vocabulary = intent.dateRange.predicate := by
  rw [CompiledQuery.datePredicate, run.window?_eq wellFormed]
  rcases run.drawn.dateRange with range | range | ⟨rule, listed, range⟩
  · rw [range, wellFormed.dateRange?_eq_none (.inl rfl)]
    rfl
  · rw [range, wellFormed.dateRange?_eq_none (.inr rfl)]
    rfl
  · have found : vocabulary.dateRange? intent.dateRange.kind = some rule := by
      rw [range]
      exact wellFormed.dateRange?_kind listed
    rw [found, range]
    rfl

/-- The tests of the intent are those that the trail names. -/
theorem tests_eq (run : Run vocabulary job query style question intent)
    (wellFormed : vocabulary.WellFormed) :
    intent.tests vocabulary.schema style =
      (if query.marked .departmentFilter then some (query.departmentTest vocabulary) else none,
        if query.marked .metricFilter then some (query.metricTest vocabulary) else none) := by
  have department : query.marked .departmentFilter = intent.department.isSome := by
    rw [Bool.eq_iff_iff, run.marked_iff wellFormed, Intent.Decides]
  have metrics := run.marked_iff wellFormed .metricFilter
  rw [Intent.tests, CompiledQuery.departmentTest, CompiledQuery.metricTest, department,
    run.departmentFilter, run.paramStyle, run.metrics_eq wellFormed]
  congr 1
  · cases intent.department <;> rfl
  · by_cases absent : intent.metrics = []
    · rw [if_pos absent, if_neg (by simp [metrics, Intent.Decides, absent])]
    · rw [if_neg absent, if_pos (metrics.mpr absent)]

/-- The condition of the text is the date condition between the tests that the trail names. -/
theorem condition_eq (run : Run vocabulary job query style question intent)
    (wellFormed : vocabulary.WellFormed)
    (present : intent.conditions vocabulary.schema ≠ []) :
    query.condition vocabulary = Text.between
      (if query.marked .departmentFilter then some (query.departmentTest vocabulary) else none)
      (query.datePredicate vocabulary)
      (if query.marked .metricFilter then some (query.metricTest vocabulary) else none) := by
  have lines := Statement.dropWhile_pieces (intent.statement vocabulary) style
    (fun name member =>
      wellFormed.lineFeed_not_mem (wellFormed.written_namesBefore intent name member))
    (fun name member =>
      wellFormed.lineFeed_not_mem (wellFormed.written_namesAfter intent name member)) present
  have whole : query.sql = (intent.statement vocabulary).render style := run.sql
  have joined := Intent.join_conditions vocabulary.schema style (boundParams_of_drawn run.drawn)
  have mark : "\n".toList = ['\n'] := by decide
  rw [run.tests_eq wellFormed, ← run.datePredicate_eq wellFormed] at joined
  rw [← joined]
  simp only [CompiledQuery.condition, whole, lines, run.closingLines_eq wellFormed,
    List.length_append, Nat.add_sub_cancel, List.take_left]
  rw [mark, Text.join_pieces, List.drop_left' (by decide)]
  rfl

/-! ## The tests -/

theorem isTest_departmentTest (wellFormed : vocabulary.WellFormed) (query : CompiledQuery) :
    (query.departmentTest vocabulary).IsTest := by
  have shortName := wellFormed.dimensionNames vocabulary.schema.dimension.shortName
    (by simp [DimensionTable.names])
  have code := wellFormed.dimensionNames vocabulary.schema.dimension.code
    (by simp [DimensionTable.names, DimensionTable.columns])
  rw [CompiledQuery.departmentTest]
  exact Condition.isTest_equals (Text.isColumn_qualified shortName code) _ _ _

theorem isTest_metricTest (wellFormed : vocabulary.WellFormed) (query : CompiledQuery) :
    (query.metricTest vocabulary).IsTest := by
  have shortName := wellFormed.factNames vocabulary.schema.fact.shortName
    (by simp [FactTable.names])
  have metricName := wellFormed.factNames vocabulary.schema.fact.metricName
    (by simp [FactTable.names, FactTable.columns])
  rw [CompiledQuery.metricTest]
  exact Condition.isTest_among (Text.isColumn_qualified shortName metricName) _ _ _

/-- The test of the department ends with a placeholder, and the test of the metrics with a
parenthesis. -/
theorem not_suffix_departmentTest (vocabulary : Vocabulary) (query : CompiledQuery) :
    ¬query.metricTest vocabulary <:+ query.departmentTest vocabulary := by
  rintro ⟨before, whole⟩
  have ends := congrArg List.getLast? whole
  obtain ⟨c, last, -, other⟩ := Condition.last_placeholder query.paramStyle 1
  have parenthesis : ")".toList = [')'] := by decide
  rw [CompiledQuery.metricTest, CompiledQuery.departmentTest, Condition.render, Condition.render,
    List.getLast?_append_of_ne_nil _ (Condition.placeholder_ne_nil _ _), last, parenthesis,
    ← List.append_assoc, List.getLast?_concat] at ends
  exact other (Option.some.inj ends).symm

/-- A date condition without placeholders repeats no condition that binds values. -/
theorem hides_of_unmarked {predicate : Text} {condition : Condition}
    (unmarked : Safety.Unmarked style predicate) (settled : condition.Settled style)
    (plain : ∀ column ∈ condition.columns, style.sign ∉ column)
    (binds : condition.parameters ≠ []) (bound : Nat) :
    predicate.Hides (condition.render style bound) := by
  intro disjunct listed member
  have within := Text.infix_of_mem_disjuncts listed member
  have marks := Condition.marks_render condition settled plain bound
  have none : Safety.placeholderMarks style (condition.render style bound) = [] := by
    rw [Safety.placeholderMarks_eq_nil_iff]
    cases style with
    | dollar => exact fun digit decimal marked => unmarked digit decimal (marked.trans within)
    | qmark => exact fun sign => unmarked (within.subset sign)
  rw [none] at marks
  simp [binds] at marks

/-- The date condition of a query that is returned writes no placeholders. -/
theorem unmarked_datePredicate (run : Run vocabulary job query style question intent)
    (wellFormed : vocabulary.WellFormed)
    (sorted : ∀ rule ∈ vocabulary.comparisons, rule.direction ≠ .unsorted)
    (passed : Safety.Passed vocabulary (some query.paramStyle) (Text.strip query.sql)
      (query.parameters.map .text)) :
    Safety.Unmarked style (query.datePredicate vocabulary) := by
  have agree := passed.placeholders_agree
  rw [run.sql, run.parameters, run.paramStyle, strip_sql style (run.drawn.direction_ne sorted),
    List.length_map] at agree
  rw [run.datePredicate_eq wellFormed]
  by_cases absent : intent.dateRange.predicate = []
  · rw [absent, ← Safety.placeholderMarks_eq_nil_iff]
    cases style <;> rfl
  · exact wellFormed.unmarked_predicate run.drawn agree absent

theorem hides_departmentTest (wellFormed : vocabulary.WellFormed)
    (unmarked : Safety.Unmarked query.paramStyle (query.datePredicate vocabulary)) :
    (query.datePredicate vocabulary).Hides (query.departmentTest vocabulary) := by
  have plain := wellFormed.sign_not_mem_written query.paramStyle Vocabulary.Written.dimensionCode
  rw [CompiledQuery.departmentTest]
  apply hides_of_unmarked unmarked
  case settled => trivial
  case plain => simpa [Condition.columns] using plain
  case binds => exact List.cons_ne_nil _ _

theorem hides_metricTest (wellFormed : vocabulary.WellFormed) (metrics : query.metrics ≠ [])
    (unmarked : Safety.Unmarked query.paramStyle (query.datePredicate vocabulary)) :
    (query.datePredicate vocabulary).Hides (query.metricTest vocabulary) := by
  have plain := wellFormed.sign_not_mem_written query.paramStyle Vocabulary.Written.metricName
  rw [CompiledQuery.metricTest]
  apply hides_of_unmarked unmarked
  case settled => trivial
  case plain => simpa [Condition.columns] using plain
  case binds => exact metrics

end Compiler.Run

/-! ## What the condition implies -/

/-- The condition of a query that is returned implies the test of the department that the trail
names exactly if the date condition has one disjunct, and the test of the metrics exactly if it
also closes what it opens. -/
theorem filters_implied_iff {raw : Value} {vocabulary : Vocabulary}
    (accepted : Vocabulary.read raw = .ok vocabulary) {surroundings : Surroundings} {job : Job}
    {query : CompiledQuery}
    (returned : Compiler.compile surroundings { job with vocabulary := some vocabulary } =
      .ok query) :
    (query.marked .departmentFilter = true →
      (Text.Implies (query.condition vocabulary) (query.departmentTest vocabulary) ↔
        (Text.disjuncts (query.datePredicate vocabulary)).length = 1)) ∧
    (query.marked .metricFilter = true →
      (Text.Implies (query.condition vocabulary) (query.metricTest vocabulary) ↔
        (Text.disjuncts (query.datePredicate vocabulary)).length = 1 ∧
          Nesting.after {} (query.datePredicate vocabulary) = {})) := by
  have wellFormed := Vocabulary.wellFormed_of_read accepted
  have passed := Compiler.passed_of_compile returned
  obtain ⟨style, question, intent, run⟩ := Compiler.exists_run returned
  obtain rfl := run.paramStyle
  have unmarked :=
    run.unmarked_datePredicate wellFormed (Vocabulary.sorted_of_read accepted) passed
  have departmentTest := Compiler.Run.isTest_departmentTest wellFormed query
  have metricTest := Compiler.Run.isTest_metricTest wellFormed query
  have different := Compiler.Run.not_suffix_departmentTest vocabulary query
  constructor
  · intro filtered
    have present : intent.conditions vocabulary.schema ≠ [] :=
      Intent.conditions_ne_nil.mpr (.inl ((run.marked_iff wellFormed _).mp filtered))
    rw [run.condition_eq wellFormed present, if_pos filtered]
    apply Text.implies_front departmentTest
    · intro other found
      obtain ⟨-, rfl⟩ : query.marked .metricFilter = true ∧ query.metricTest vocabulary = other := by
        simpa using found
      exact ⟨metricTest, different⟩
    · exact Compiler.Run.hides_departmentTest wellFormed unmarked
  · intro filtered
    have metrics : intent.metrics ≠ [] := (run.marked_iff wellFormed .metricFilter).mp filtered
    have present : intent.conditions vocabulary.schema ≠ [] :=
      Intent.conditions_ne_nil.mpr (.inr (.inr metrics))
    rw [run.condition_eq wellFormed present, if_pos filtered]
    apply Text.implies_back metricTest
    · intro other found
      obtain ⟨-, rfl⟩ : query.marked .departmentFilter = true ∧
          query.departmentTest vocabulary = other := by
        simpa using found
      exact ⟨departmentTest, fun same => different (same ▸ List.suffix_rfl)⟩
    · rw [← run.metrics_eq wellFormed] at metrics
      exact Compiler.Run.hides_metricTest wellFormed metrics unmarked

namespace Compiler

theorem filters_implied_sample :
    ∃ query, compileSample "Most total rain of the people in spring" = .ok query ∧
      (query.marked .departmentFilter = true ∧ Text.Implies
        (query.condition Vocabulary.sampleVocabulary)
        (query.departmentTest Vocabulary.sampleVocabulary)) ∧
      (query.marked .metricFilter = true ∧ Text.Implies
        (query.condition Vocabulary.sampleVocabulary)
        (query.metricTest Vocabulary.sampleVocabulary)) := by
  have told : (compileSample "Most total rain of the people in spring").toOption.map
      (fun query => (query.marked .departmentFilter, query.marked .metricFilter,
        (Text.disjuncts (query.datePredicate Vocabulary.sampleVocabulary)).length,
        Nesting.after {} (query.datePredicate Vocabulary.sampleVocabulary))) =
        some (true, true, 1, {}) := by
    decide +kernel
  obtain ⟨query, returned, fields⟩ := Option.map_eq_some_iff.mp told
  simp only [Prod.mk.injEq] at fields
  obtain ⟨department, metrics, single, closed⟩ := fields
  have compiled := Outcome.toOption_eq_some.mp returned
  refine ⟨query, compiled, ?_⟩
  rw [compileSample] at compiled
  obtain ⟨departmentImplied, metricsImplied⟩ :=
    filters_implied_iff Vocabulary.read_sampleSource compiled
  exact ⟨⟨department, (departmentImplied department).mpr single⟩,
    metrics, (metricsImplied metrics).mpr ⟨single, closed⟩⟩

/-- A source whose date condition has two disjuncts. -/
def partedSource : Value := .record
  [("schema", ((Vocabulary.sampleSource.entries.toOption).bind
     (Value.lookup? "schema")).getD .null),
   ("departments", .list
     [.record [("code", .text "hr"), ("synonyms", .texts ["people"])]]),
   ("date_ranges", .list
     [.record [("kind", .text "q1"), ("phrases", .texts ["spring"]),
       ("predicate", .text "\x7bdate\x7d < 4 OR \x7bdate\x7d > 9")]]),
   ("metrics", .list
     [.record [("keyword", .text "rain"), ("names", .texts ["rain", "snow"])]])]

/-- The vocabulary that `partedSource` describes. -/
def partedVocabulary : Vocabulary where
  version := .int 1
  schema := Vocabulary.sampleVocabulary.schema
  departments := [{ code := .hr, synonyms := ["people"] }]
  dateRanges :=
    [{ kind := .q1
       phrases := ["spring"]
       predicate := "r.taken_on < 4 OR r.taken_on > 9"
       label := .text "q1" }]
  aggregations := []
  metrics := [{ keyword := "rain", names := [.text "rain", .text "snow"] }]
  comparisons := []
  limits := { patterns := [], defaultRanked := 10, maximum := 1000 }

set_option maxRecDepth 20000 in
theorem read_partedSource : Vocabulary.read partedSource = .ok partedVocabulary := by
  with_unfolding_all rfl

/-- Under that vocabulary rows of other departments and of other metrics are selected. -/
theorem filters_bypassed :
    Vocabulary.read partedSource = .ok partedVocabulary ∧
      ∃ query, compile { settings := .error .blankQuestion, vocabulary := .error .blankQuestion }
          { sampleJob "rain of the people in spring" with vocabulary := some partedVocabulary } =
            .ok query ∧
        (query.marked .departmentFilter = true ∧ ¬Text.Implies
          (query.condition partedVocabulary) (query.departmentTest partedVocabulary)) ∧
        (query.marked .metricFilter = true ∧ ¬Text.Implies
          (query.condition partedVocabulary) (query.metricTest partedVocabulary)) := by
  refine ⟨read_partedSource, ?_⟩
  have told : (compile { settings := .error .blankQuestion, vocabulary := .error .blankQuestion }
      { sampleJob "rain of the people in spring" with
        vocabulary := some partedVocabulary }).toOption.map
      (fun query => (query.marked .departmentFilter, query.marked .metricFilter,
        decide (Text.Implies (query.condition partedVocabulary)
          (query.departmentTest partedVocabulary)),
        decide (Text.Implies (query.condition partedVocabulary)
          (query.metricTest partedVocabulary)))) = some (true, true, false, false) := by
    decide +kernel
  obtain ⟨query, returned, fields⟩ := Option.map_eq_some_iff.mp told
  simp only [Prod.mk.injEq, decide_eq_false_iff_not] at fields
  obtain ⟨department, metrics, departmentMissed, metricsMissed⟩ := fields
  exact ⟨query, Outcome.toOption_eq_some.mp returned, ⟨department, departmentMissed⟩,
    metrics, metricsMissed⟩

end Compiler

end Inquiry
