import Inquiry.Proofs.Safety.Quiet
import Inquiry.Proofs.Statement.Placeholders
import Inquiry.Vocabulary.Bundled

/-!
# Quiet statements under the bundled vocabulary

Every name and predicate that the bundled vocabulary puts into a statement is
quiet, so whole statements are quiet, up to the keyword of their row limit.
-/

namespace Inquiry

/-! ## The bundled vocabulary -/

namespace Vocabulary

open Safety (alarms gateKeywords)

/-- Every name that statements under the bundled vocabulary write. -/
def bundledNames : List Text :=
  ["metrics", "m", "m.department_id", "m.metric_name", "m.metric_value", "m.metric_date",
   "m.monthly_change_percent", "departments", "d", "d.id", "d.name", "d.code",
   "department", "aggregated_value", "growth_rate", "SUM", "AVG", "COUNT", "MIN", "MAX",
   "", "ASC", "DESC"]

theorem names_quiet :
    ∀ name ∈ bundledNames, alarms gateKeywords name = [] := by
  decide +kernel

theorem predicates_quiet : ∀ rule ∈ bundled.dateRanges,
    alarms gateKeywords rule.predicate = [] ∧ rule.predicate ≠ [] ∧
      '\x7b' ∉ rule.predicate ∧ '$' ∉ rule.predicate ∧ '?' ∉ rule.predicate ∧
      '\n' ∉ rule.predicate := by
  decide +kernel

theorem wellFormed_bundled : bundled.WellFormed where
  factNames := by decide
  dimensionNames := by decide
  shortNames := by decide
  dateKinds := by decide
  dateKindNamed := by decide
  predicates rule member := by
    obtain ⟨-, nonempty, unmarked, -⟩ := predicates_quiet rule member
    exact ⟨rule.predicate, nonempty, (Text.replace_of_not_mem unmarked).symm⟩
  aggregationKinds := by decide
  aggregationKindNamed := by decide
  aggregationColumn := by decide
  aggregationOutput := by decide
  comparisonKinds := by decide
  comparisonKindNamed := by decide
  comparisonKeywords := by decide +kernel
  defaultRanked := by decide

theorem namesBefore_bundled (intent : Intent) :
    ∀ name ∈ (intent.statement bundled).namesBefore, name ∈ bundledNames := by
  have items : ∀ (kind : AggregationKind) (filtered : Bool), ∀ name ∈
      (Intent.selectItems bundled.schema (bundled.aggregation? kind) filtered).flatMap (·.names),
      name ∈ bundledNames := by
    intro kind filtered
    cases kind <;> cases filtered <;> decide
  simp only [Statement.namesBefore, Intent.statement, List.forall_mem_append]
  exact ⟨items _ _, by decide⟩

theorem namesAfter_bundled (intent : Intent) :
    ∀ name ∈ (intent.statement bundled).namesAfter, name ∈ bundledNames := by
  have groups : ∀ (kind : AggregationKind) (filtered : Bool), ∀ name ∈
      Intent.groupKeys bundled.schema (bundled.aggregation? kind) filtered,
      name ∈ bundledNames := by
    intro kind filtered
    cases kind <;> cases filtered <;> decide
  have order : ∀ (kind : AggregationKind) (ranking : ComparisonKind), ∀ name ∈
      (Intent.orderKey bundled.schema (bundled.aggregation? kind) { kind := ranking }).names,
      name ∈ bundledNames := by
    intro kind ranking
    cases kind <;> cases ranking <;> decide
  have direction : ∀ direction : SortDirection, Tagged.tag direction ∈ bundledNames := by
    intro direction
    cases direction <;> decide
  simp only [Statement.namesAfter, Intent.statement, List.forall_mem_append,
    List.forall_mem_singleton]
  exact ⟨⟨groups _ _, order _ intent.comparison.kind⟩, direction _⟩

end Vocabulary

/-! ## Assembled statements -/

namespace Vocabulary

open Safety (alarms gateKeywords dangerousKeywords)

variable {style : ParamStyle} {intent : Intent}

/-- What conditions are made of is quiet. -/
theorem alarms_condition (offered : bundled.Offers intent.dateRange) {condition : Condition}
    (member : condition ∈ intent.conditions bundled.schema) (bound : Nat) :
    alarms gateKeywords (condition.render style bound) = [] := by
  have reading := Safety.reading_alarms
  have placeholder := Safety.alarms_placeholder Safety.capital_gateKeywords style
  rcases Intent.mem_conditions member with ⟨department, rfl⟩ | ⟨-, rfl⟩ | rfl
  · rw [reading.read_equals, placeholder, List.append_nil]
    exact names_quiet _ (by decide)
  · rcases offered with empty | ⟨rule, listed, same⟩
    · rw [Condition.render, empty, reading.nil]
    · rw [Condition.render, same]
      exact (predicates_quiet rule listed).1
  · rw [reading.read_among, ParamStyle.placeholders_eq, List.flatMap_map]
    simp only [placeholder, List.flatMap_eq_nil_iff.mpr fun _ _ => rfl, List.append_nil]
    exact names_quiet _ (by decide)

/-- But for its row limit, every statement is quiet. -/
theorem alarms_unlimited (style : ParamStyle) (offered : bundled.Offers intent.dateRange) :
    alarms gateKeywords ((intent.statement bundled).unlimited.render style) = [] := by
  have before : (intent.statement bundled).namesBefore.flatMap
      (alarms gateKeywords) = [] :=
    List.flatMap_eq_nil_iff.mpr fun name member =>
      names_quiet name (namesBefore_bundled intent name member)
  have after : (intent.statement bundled).namesAfter.flatMap
      (alarms gateKeywords) = [] :=
    List.flatMap_eq_nil_iff.mpr fun name member =>
      names_quiet name (namesAfter_bundled intent name member)
  have conditions : (Condition.renderAll style 0 (intent.conditions bundled.schema)).flatMap
      (alarms gateKeywords) = [] := by
    apply List.flatMap_eq_nil_iff.mpr
    intro text member
    obtain ⟨condition, found, bound, rfl⟩ := Condition.exists_of_mem_renderAll member
    exact alarms_condition offered found bound
  rw [Safety.reading_alarms.read_render]
  change (intent.statement bundled).namesBefore.flatMap _ ++
    (Condition.renderAll style 0 (intent.conditions bundled.schema)).flatMap _ ++
    (intent.statement bundled).namesAfter.flatMap _ ++ [] = []
  rw [before, conditions, after]
  rfl

/-- With its row limit, a statement holds one more keyword, which is not dangerous. -/
theorem alarms_sql (offered : bundled.Offers intent.dateRange) :
    alarms dangerousKeywords (assemble bundled style intent).sql = [] := by
  have subset : dangerousKeywords ⊆ gateKeywords := List.subset_cons_self _ _
  have front := Safety.alarms_of_subset subset (alarms_unlimited style offered)
  change alarms dangerousKeywords ((intent.statement bundled).render style) = []
  rw [Statement.render_unlimited]
  cases (intent.statement bundled).limit with
  | none => rwa [Option.elim_none, List.append_nil]
  | some limit =>
      have piecewise := Safety.piecewise_alarms dangerousKeywords
      have digits := Safety.alarms_of_subset subset
        (Safety.alarms_ofNat Safety.capital_gateKeywords limit)
      rw [Option.elim_some, ← List.append_assoc, piecewise.between (by decide +kernel) rfl rfl,
        front, digits]
      rfl

end Vocabulary

end Inquiry
