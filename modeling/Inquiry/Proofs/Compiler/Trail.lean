import Inquiry.Proofs.Compiler.Run
import Inquiry.Proofs.Extraction.Mention
import Inquiry.Proofs.Statement.Layout
import Inquiry.Proofs.Text.Case

/-!
# Trails, texts and fields agree

A compiled query tells what was decided in three places: in its text, in its trail
and in its other fields.  They are computed from different data, and they agree.
-/

namespace Inquiry

/-- The trail that the other fields of a query call for, given the ranking that was asked
for. -/
def CompiledQuery.expectedTrail (query : CompiledQuery) (ranking : ComparisonKind) :
    List Text :=
  let leaves (pattern : Text) (made : Bool) : List Text :=
    if made then [pattern] else []
  let departments := if query.departmentFilter.isSome then 1 else 0
  [if query.aggregationType = "none" then "basic_selection".toList
    else "aggregation_" ++ query.aggregationType] ++
  leaves "department_filter" query.departmentFilter.isSome ++
  leaves ("date_filter_" ++ query.dateFilter)
    (query.dateFilter != "none" && query.dateFilter != "custom") ++
  leaves "metric_filter" (departments < query.parameters.length) ++
  leaves ("comparison_" ++ Tagged.tag ranking) (ranking != .none) ++
  leaves "limit_results" (0 < query.limit)

/-! ## Conditions -/

theorem Intent.conditions_ne_nil {contract : SchemaContract} {intent : Intent} :
    intent.conditions contract ≠ [] ↔ intent.department.isSome = true ∨
      intent.dateRange.predicate ≠ [] ∨ intent.metrics ≠ [] := by
  rw [conditions]
  cases intent.department <;> cases intent.dateRange.predicate <;> cases intent.metrics <;> simp

namespace Vocabulary.WellFormed

variable {vocabulary : Vocabulary}

/-- The text of an intent ends with the order of the rows and the row limit. -/
theorem exists_lines (wellFormed : vocabulary.WellFormed) (style : ParamStyle)
    (intent : Intent) :
    ∃ before, Text.pieces '\n' (assemble vocabulary style intent).sql =
      before ++ (intent.statement vocabulary).orderLine ::
        ((writtenLimit? intent.limit vocabulary.limits.maximum).map fun limit =>
          "LIMIT ".toList ++ Decimal.ofNat limit).toList :=
  Statement.exists_lines style fun name member =>
    wellFormed.lineFeed_not_mem (wellFormed.written_namesAfter intent name member)

/-- The last line of a statement is its row limit, or else the order of its rows. -/
theorem getLast?_lines (wellFormed : vocabulary.WellFormed) (style : ParamStyle)
    (intent : Intent) :
    (Text.pieces '\n' (assemble vocabulary style intent).sql).getLast? =
      some (match writtenLimit? intent.limit vocabulary.limits.maximum with
        | some limit => "LIMIT ".toList ++ Decimal.ofNat limit
        | none => (intent.statement vocabulary).orderLine) := by
  obtain ⟨before, lines⟩ := wellFormed.exists_lines style intent
  rw [lines]
  cases writtenLimit? intent.limit vocabulary.limits.maximum with
  | none => simp
  | some limit => simp

end Vocabulary.WellFormed

namespace Compiler.Run

variable {vocabulary : Vocabulary} {job : Job} {query : CompiledQuery} {style : ParamStyle}
  {question : Text} {intent : Intent}

theorem comparison_eq (run : Run vocabulary job query style question intent)
    (wellFormed : vocabulary.WellFormed) :
    intent.comparison = Extraction.comparison vocabulary question := by
  obtain ⟨_, _, -, -, source⟩ := Intent.exists_readFrom run.extracted
  rw [source.comparison, Extraction.comparison_strip_lower wellFormed.comparisonKeywords]

theorem trail_eq_expected (run : Run vocabulary job query style question intent)
    (wellFormed : vocabulary.WellFormed) :
    query.matchedPatterns = query.expectedTrail intent.comparison.kind := by
  have leaf : ∀ (mark : Mark) (made : Bool),
      (if made = true then [mark] else []).map Mark.tag =
        if made = true then [mark.tag] else [] := by
    intro mark made
    cases made <;> rfl
  have summary : (if intent.aggregation.kind = .none then Mark.basicSelection
      else .aggregation intent.aggregation.kind).tag =
      if query.aggregationType = "none" then "basic_selection".toList
        else "aggregation_" ++ query.aggregationType := by
    rw [run.aggregationType]
    cases intent.aggregation.kind <;> decide
  have window : (intent.dateRange.kind != .none && intent.dateRange.kind != .custom) =
      (query.dateFilter != "none" && query.dateFilter != "custom") := by
    rw [run.dateFilter]
    cases intent.dateRange.kind <;> decide
  have department : intent.department.isSome = query.departmentFilter.isSome := by
    rw [run.departmentFilter, Option.isSome_map]
  have metrics : (!intent.metrics.isEmpty) =
      decide ((if query.departmentFilter.isSome then 1 else 0) < query.parameters.length) := by
    rw [run.parameters, run.drawn.length_parameters, ← department]
    cases intent.metrics <;> simp
  have limit : (intent.limit != 0) = decide (0 < query.limit) := by
    rw [run.limit_eq wellFormed, Bool.eq_iff_iff]
    simp [Nat.pos_iff_ne_zero]
  rw [run.trail_eq wellFormed, Intent.decisions, CompiledQuery.expectedTrail]
  simp only [List.map_append, List.map_singleton, leaf, summary, window, department, metrics,
    limit]
  rw [run.dateFilter]
  rfl

/-- The text of a query has a line of conditions if its intent has conditions. -/
theorem exists_where_iff (run : Run vocabulary job query style question intent)
    (wellFormed : vocabulary.WellFormed) :
    (∃ line ∈ Text.pieces '\n' query.sql, "WHERE ".toList <+: line) ↔
      intent.conditions vocabulary.schema ≠ [] := by
  rw [run.sql]
  exact Statement.exists_where_iff style
    (fun name member =>
      wellFormed.lineFeed_not_mem (wellFormed.written_namesBefore intent name member))
    (fun name member =>
      wellFormed.lineFeed_not_mem (wellFormed.written_namesAfter intent name member))

/-- The trail names the decisions that were made, and no others. -/
theorem mem_trail (run : Run vocabulary job query style question intent)
    (wellFormed : vocabulary.WellFormed) (mark : Mark) :
    mark.tag ∈ query.matchedPatterns ↔ intent.Decides mark := by
  rw [run.trail_eq wellFormed, List.mem_map_of_injective Mark.tag_injective,
    Intent.mem_decisions]

end Compiler.Run

/-- The trail of a compiled query is the one that its other fields call for; it names the
conditions of the text, and the last line of the text is the row limit if there is one. -/
theorem trail_agrees {raw : Value} {vocabulary : Vocabulary}
    (accepted : Vocabulary.read raw = .ok vocabulary) {surroundings : Surroundings} {job : Job}
    {query : CompiledQuery}
    (returned : Compiler.compile surroundings { job with vocabulary := some vocabulary } =
      .ok query) :
    ∃ question lastLine, job.question = .text question ∧
      (Text.pieces '\n' query.sql).getLast? = some lastLine ∧
      query.matchedPatterns =
        query.expectedTrail (Extraction.comparison vocabulary question).kind ∧
      ((∃ line ∈ Text.pieces '\n' query.sql, "WHERE ".toList <+: line) ↔
        "department_filter".toList ∈ query.matchedPatterns ∨
          "date_filter_" ++ query.dateFilter ∈ query.matchedPatterns ∨
          "metric_filter".toList ∈ query.matchedPatterns) ∧
      (0 < query.limit ↔ lastLine = "LIMIT ".toList ++ Decimal.ofInt query.limit) ∧
      (¬0 < query.limit → "ORDER BY ".toList <+: lastLine) := by
  have wellFormed := Vocabulary.wellFormed_of_read accepted
  obtain ⟨style, question, intent, run⟩ := Compiler.exists_run returned
  have trail : query.matchedPatterns =
      query.expectedTrail (Extraction.comparison vocabulary question).kind := by
    rw [← run.comparison_eq wellFormed]
    exact run.trail_eq_expected wellFormed
  have windows : intent.dateRange.predicate ≠ [] ↔
      intent.Decides (.dateFilter intent.dateRange.kind) := by
    rw [ne_eq, run.drawn.predicate_eq_nil wellFormed]
    simp [Intent.Decides]
  have conditions : (∃ line ∈ Text.pieces '\n' query.sql, "WHERE ".toList <+: line) ↔
      "department_filter".toList ∈ query.matchedPatterns ∨
        "date_filter_" ++ query.dateFilter ∈ query.matchedPatterns ∨
        "metric_filter".toList ∈ query.matchedPatterns := by
    rw [run.exists_where_iff wellFormed, Intent.conditions_ne_nil, run.dateFilter, windows]
    exact or_congr (run.mem_trail wellFormed .departmentFilter).symm
      (or_congr (run.mem_trail wellFormed (.dateFilter intent.dateRange.kind)).symm
        (run.mem_trail wellFormed .metricFilter).symm)
  have lastLine := wellFormed.getLast?_lines style intent
  rw [run.drawn.writtenLimit?_eq wellFormed, ← run.sql] at lastLine
  refine ⟨question, _, run.asked, lastLine, trail, conditions, ?_⟩
  rw [run.limit_eq wellFormed]
  by_cases unlimited : intent.limit = 0
  · rw [if_pos unlimited, unlimited]
    refine ⟨⟨fun positive => absurd positive (by decide), fun same => ?_⟩, fun _ => ?_⟩
    · exact absurd same (Statement.orderLine_ne_limit _ _)
    · exact Statement.prefix_orderLine _
  · have positive : (0 : Int) < intent.limit := by omega
    rw [if_neg unlimited]
    exact ⟨⟨fun _ => rfl, fun _ => positive⟩, fun absent => absurd positive absent⟩

namespace Compiler

theorem trail_agrees_sample :
    ∃ query, compileSample "Most total rain of the people in spring" = .ok query ∧
      0 < query.limit ∧ (Text.pieces '\n' query.sql).getLast? = some "LIMIT 10".toList ∧
      ∃ line ∈ Text.pieces '\n' query.sql, "WHERE ".toList <+: line := by
  obtain ⟨query, returned, limit, filtered⟩ := exists_compileSample
  rw [compileSample] at returned
  obtain ⟨question, lastLine, -, ends, -, conditions, limited, -⟩ :=
    trail_agrees Vocabulary.read_sampleSource returned
  have positive : 0 < query.limit := by omega
  have written := limited.mp positive
  rw [limit] at written
  rw [written] at ends
  exact ⟨query, returned, positive, ends, conditions.mpr (.inr (.inr filtered))⟩

end Compiler

end Inquiry
