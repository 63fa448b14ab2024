import Inquiry.Proofs.Compiler.Run
import Inquiry.Proofs.Statement.Lines

/-!
# Questions do not reach statements

A compiled query tells which decisions shaped its statement.  Two compilations
that tell the same have the same text, whatever was asked: the question and the
overrides decide between rules of the vocabulary and are then forgotten.

What is bound comes from the vocabulary as well.
-/

namespace Inquiry

/-- What is told about a compiled query besides its text. -/
structure Outline where
  filtered : Bool
  dateFilter : Text
  aggregationType : Text
  /-- The ranking that the trail names, if it names one. -/
  comparison : Option Text
  limit : Int
  parameterCount : Nat
  paramStyle : ParamStyle
  deriving Repr, DecidableEq

def CompiledQuery.outline (query : CompiledQuery) : Outline where
  filtered := query.departmentFilter.isSome
  dateFilter := query.dateFilter
  aggregationType := query.aggregationType
  comparison := query.matchedPatterns.find? fun pattern => "comparison_".toList.isPrefixOf pattern
  limit := query.limit
  parameterCount := query.parameters.length
  paramStyle := query.paramStyle

/-! ## Intents of the same shape -/

/-- Two intents that differ only in which department and which metrics they name. -/
structure Intent.Alike (vocabulary : Vocabulary) (first second : Intent) : Prop where
  department : first.department.isSome = second.department.isSome
  dateRange : first.dateRange = second.dateRange
  unbound : first.dateRange.boundParams = []
  aggregation : first.aggregation.kind = second.aggregation.kind
  metrics : first.metrics.length = second.metrics.length
  comparison : first.comparison = second.comparison
  limit : writtenLimit? first.limit vocabulary.limits.maximum =
    writtenLimit? second.limit vocabulary.limits.maximum

namespace Intent.Alike

variable {vocabulary : Vocabulary} {first second : Intent}

theorem isEmpty_metrics (alike : Alike vocabulary first second) :
    first.metrics.isEmpty = second.metrics.isEmpty := by
  rw [Bool.eq_iff_iff, List.isEmpty_iff, List.isEmpty_iff, ← List.length_eq_zero_iff,
    ← List.length_eq_zero_iff, alike.metrics]

theorem filters_eq (alike : Alike vocabulary first second) (style : ParamStyle) :
    first.filters vocabulary.schema style = second.filters vocabulary.schema style := by
  simp only [filters, alike.department, alike.dateRange, alike.metrics,
    alike.isEmpty_metrics]

/-- Intents of the same shape have the same text. -/
theorem sql_eq (alike : Alike vocabulary first second) (style : ParamStyle) :
    (assemble vocabulary style first).sql = (assemble vocabulary style second).sql := by
  have unbound : second.dateRange.boundParams = [] := by
    rw [← alike.dateRange, alike.unbound]
  apply Statement.render_congr
  case items => simp only [statement, alike.aggregation, alike.department]
  case contract => rfl
  case conditions =>
    simp only [statement]
    rw [renderAll_conditions vocabulary.schema style alike.unbound,
      renderAll_conditions vocabulary.schema style unbound, alike.filters_eq]
  case groupKeys => simp only [statement, alike.aggregation, alike.department]
  case orderKey => simp only [statement, alike.aggregation, alike.comparison]
  case direction => simp only [statement, alike.comparison]
  case limit => simp only [statement, alike.limit]

/-- Intents of the same shape leave the same trail. -/
theorem trail_eq (alike : Alike vocabulary first second) (style : ParamStyle) :
    (assemble vocabulary style first).trail = (assemble vocabulary style second).trail := by
  have same : first.marks vocabulary = second.marks vocabulary := by
    simp only [marks, alike.department, alike.dateRange, alike.aggregation,
      alike.isEmpty_metrics, alike.comparison, alike.limit]
  rw [assemble, assemble, same]

end Intent.Alike

/-- Written limits are positive, so zero stands for no limit alone. -/
theorem writtenLimit_inj {first second maximum : Nat}
    (same : (writtenLimit? first maximum).getD 0 = (writtenLimit? second maximum).getD 0) :
    writtenLimit? first maximum = writtenLimit? second maximum := by
  simp only [writtenLimit?] at same ⊢
  split at same <;> split at same <;> simp_all

/-! ## Rules by their kinds -/

section Kinds

variable {vocabulary : Vocabulary} {first second : Intent}

/-- The kind of a date window determines its condition. -/
theorem dateRange_eq_of_kind (wellFormed : vocabulary.WellFormed)
    (firstDrawn : first.Drawn vocabulary) (secondDrawn : second.Drawn vocabulary)
    (same : first.dateRange.kind = second.dateRange.kind) :
    first.dateRange = second.dateRange := by
  have named := wellFormed.dateKindNamed
  rcases firstDrawn.dateRange with left | left | ⟨leftRule, leftListed, left⟩ <;>
    rcases secondDrawn.dateRange with right | right | ⟨rightRule, rightListed, right⟩ <;>
    rw [left, right] at same ⊢
  · cases same
  · exact absurd same.symm (named rightRule rightListed).1
  · cases same
  · exact absurd same.symm (named rightRule rightListed).2
  · exact absurd same (named leftRule leftListed).1
  · exact absurd same (named leftRule leftListed).2
  · rw [List.inj_on_of_nodup_map wellFormed.dateKinds leftListed rightListed same]

/-- The kind of a ranking determines its direction. -/
theorem comparison_eq_of_kind (wellFormed : vocabulary.WellFormed)
    (firstDrawn : first.Drawn vocabulary) (secondDrawn : second.Drawn vocabulary)
    (same : first.comparison.kind = second.comparison.kind) :
    first.comparison = second.comparison := by
  have named := wellFormed.comparisonKindNamed
  rcases firstDrawn.comparison with left | ⟨leftRule, leftListed, left⟩ <;>
    rcases secondDrawn.comparison with right | ⟨rightRule, rightListed, right⟩ <;>
    rw [left, right] at same ⊢
  · exact absurd same.symm (named rightRule rightListed)
  · exact absurd same (named leftRule leftListed)
  · rw [List.inj_on_of_nodup_map wellFormed.comparisonKinds leftListed rightListed same]

theorem kind_of_comparisonTag {left right : ComparisonKind}
    (same : (if left = .none then none else some (Mark.comparison left).tag) =
      if right = .none then none else some (Mark.comparison right).tag) : left = right := by
  cases left <;> cases right <;> first | rfl | exact absurd same (by decide)

end Kinds

/-! ## Compilations -/

namespace Compiler

/-- A compiled query is assembled from an intent that was drawn from the vocabulary. -/
theorem compile_eq_ok {surroundings : Surroundings} {job : Job} {vocabulary : Vocabulary}
    {query : CompiledQuery}
    (success : compile surroundings { job with vocabulary := some vocabulary } = .ok query) :
    ∃ (style : ParamStyle) (intent : Intent) (explanation : Text),
      intent.Drawn vocabulary ∧ query = {
        sql := (assemble vocabulary style intent).sql
        parameters := (assemble vocabulary style intent).parameters
        explanation
        matchedPatterns := (assemble vocabulary style intent).trail
        departmentFilter := intent.department.map Tagged.tag
        dateFilter := Tagged.tag intent.dateRange.kind
        aggregationType := Tagged.tag intent.aggregation.kind
        limit := ((writtenLimit? intent.limit vocabulary.limits.maximum).getD 0 : Nat)
        paramStyle := style } := by
  obtain ⟨style, question, intent, run⟩ := exists_run success
  refine ⟨style, intent, query.explanation, run.drawn, ?_⟩
  rw [← run.sql, ← run.parameters, ← run.trail, ← run.departmentFilter, ← run.dateFilter,
    ← run.aggregationType, ← run.limit, ← run.paramStyle]

end Compiler

/-- Parameters are department codes and metric names of the vocabulary. -/
theorem Intent.Drawn.mem_parameters {vocabulary : Vocabulary} {intent : Intent}
    (drawn : intent.Drawn vocabulary) (style : ParamStyle) {parameter : Text}
    (member : parameter ∈ (assemble vocabulary style intent).parameters) :
    parameter ∈ vocabulary.departmentCodes ∨
      ∃ rule ∈ vocabulary.metrics, .text parameter ∈ rule.names := by
  rw [drawn.parameters_eq, List.mem_append, Option.mem_toList, Option.map_eq_some_iff]
    at member
  rcases member with ⟨code, named, rfl⟩ | metric
  · exact .inl (drawn.department code named)
  · exact .inr (drawn.metrics parameter metric)

/-- What is told about two compiled queries determines their texts and trails, and every
parameter comes from the vocabulary. -/
theorem compile_noninterference {raw : Value} {vocabulary : Vocabulary}
    (accepted : Vocabulary.read raw = .ok vocabulary)
    {firstSurroundings secondSurroundings : Surroundings} {firstJob secondJob : Job}
    {first second : CompiledQuery}
    (firstRun : Compiler.compile firstSurroundings
      { firstJob with vocabulary := some vocabulary } = .ok first)
    (secondRun : Compiler.compile secondSurroundings
      { secondJob with vocabulary := some vocabulary } = .ok second) :
    (first.outline = second.outline →
        first.sql = second.sql ∧ first.matchedPatterns = second.matchedPatterns) ∧
      ∀ parameter ∈ first.parameters ++ second.parameters,
        parameter ∈ vocabulary.departmentCodes ∨
          ∃ rule ∈ vocabulary.metrics, .text parameter ∈ rule.names := by
  have wellFormed := Vocabulary.wellFormed_of_read accepted
  obtain ⟨firstStyle, firstIntent, _, firstDrawn, rfl⟩ := Compiler.compile_eq_ok firstRun
  obtain ⟨secondStyle, secondIntent, _, secondDrawn, rfl⟩ := Compiler.compile_eq_ok secondRun
  constructor
  · intro same
    simp only [CompiledQuery.outline, Outline.mk.injEq, Option.isSome_map,
      Intent.find_comparison, Intent.Drawn.length_parameters firstDrawn,
      Intent.Drawn.length_parameters secondDrawn, Int.natCast_inj] at same
    obtain ⟨filtered, dateFilter, aggregationType, comparison, limit, count, rfl⟩ := same
    have ranges := dateRange_eq_of_kind wellFormed firstDrawn secondDrawn
      (Tagged.tag_injective dateFilter)
    have rankings := comparison_eq_of_kind wellFormed firstDrawn secondDrawn
      (kind_of_comparisonTag comparison)
    have alike : Intent.Alike vocabulary firstIntent secondIntent := {
      department := filtered
      dateRange := ranges
      unbound := boundParams_of_drawn firstDrawn
      aggregation := Tagged.tag_injective aggregationType
      metrics := by
        rw [filtered] at count
        omega
      comparison := rankings
      limit := writtenLimit_inj limit }
    exact ⟨alike.sql_eq firstStyle, alike.trail_eq firstStyle⟩
  · intro parameter member
    rcases List.mem_append.mp member with here | there
    · exact firstDrawn.mem_parameters firstStyle here
    · exact secondDrawn.mem_parameters secondStyle there

/-! ## Two questions about the small vocabulary -/

namespace Compiler

theorem compileSample_alike :
    ∃ first second, compileSample "Total rain in spring?" = .ok first ∧
      compileSample "x'; drop table sites; -- spring total rain" = .ok second ∧
      first.sql = second.sql := by
  obtain ⟨first, firstRun⟩ : ∃ first, compileSample "Total rain in spring?" = .ok first :=
    Outcome.exists_of_isSome (by decide +kernel)
  obtain ⟨second, secondRun⟩ :
      ∃ second, compileSample "x'; drop table sites; -- spring total rain" = .ok second :=
    Outcome.exists_of_isSome (by decide +kernel)
  have outlines : (compileSample "Total rain in spring?").toOption.map CompiledQuery.outline =
      (compileSample "x'; drop table sites; -- spring total rain").toOption.map
        CompiledQuery.outline := by
    decide +kernel
  rw [firstRun, secondRun] at outlines
  have same : first.outline = second.outline := by
    simpa [Except.toOption] using outlines
  rw [compileSample] at firstRun secondRun
  have texts := (compile_noninterference Vocabulary.read_sampleSource firstRun secondRun).1 same
  exact ⟨first, second, firstRun, secondRun, texts.1⟩

end Compiler

end Inquiry
