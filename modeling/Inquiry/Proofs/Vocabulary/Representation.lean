import Inquiry.Proofs.Tag
import Inquiry.Proofs.Vocabulary.WellFormed

/-!
# The representation of vocabularies

Whatever nested data a vocabulary is read from, what the reader builds from it has one
form: plain names, phrases as questions are searched for them, kinds that look up their
own rules, and clauses that are complete.  Statements rely on each of these, since no
later step checks them again.
-/

namespace Inquiry

/-- A letter or underscore of ASCII, then letters, digits and underscores. -/
def Text.IsName (text : Text) : Prop :=
  ∃ first rest, text = first :: rest ∧ (first.isAlpha = true ∨ first = '_') ∧
    ∀ c ∈ rest, c.isAlphanum = true ∨ c = '_'

namespace Vocabulary

/-- The kinds of a section: no two rules share one, none stands for the absence of a rule,
and each looks up the rule that it belongs to. -/
structure KindsIdentify {α β : Type} [Tagged β] (rules : List α) (kind : α → β)
    (rule? : β → Option α) : Prop where
  distinct : (rules.map fun rule => Tagged.tag (kind rule)).Nodup
  named : ∀ rule ∈ rules, Tagged.tag (kind rule) ≠ "none" ∧ Tagged.tag (kind rule) ≠ "custom"
  found : ∀ rule ∈ rules, rule? (kind rule) = some rule

/-- The form of every vocabulary that was read. -/
structure Canonical (vocabulary : Vocabulary) : Prop where
  factNames : ∀ name ∈ vocabulary.schema.fact.names, Text.IsName name
  dimensionNames : ∀ name ∈ vocabulary.schema.dimension.names, Text.IsName name
  synonyms : ∀ rule ∈ vocabulary.departments, ∀ synonym ∈ rule.synonyms, Text.IsPhrase synonym
  datePhrases : ∀ rule ∈ vocabulary.dateRanges, ∀ phrase ∈ rule.phrases, Text.IsPhrase phrase
  aggregationKeywords : ∀ rule ∈ vocabulary.aggregations, ∀ keyword ∈ rule.keywords,
    Text.IsPhrase keyword
  metricKeywords : ∀ rule ∈ vocabulary.metrics, Text.IsPhrase rule.keyword
  comparisonKeywords : ∀ rule ∈ vocabulary.comparisons, ∀ keyword ∈ rule.keywords,
    Text.IsPhrase keyword
  departmentCodes : vocabulary.departmentCodes.Nodup
  departmentsKnown : ∀ code ∈ vocabulary.departmentCodes,
    code ∈ (["sales", "finance", "devrel", "hr", "events", "compliance"] : List Text)
  dateKinds : KindsIdentify vocabulary.dateRanges (·.kind) vocabulary.dateRange?
  aggregationKinds : KindsIdentify vocabulary.aggregations (·.kind) vocabulary.aggregation?
  comparisonKinds : KindsIdentify vocabulary.comparisons (·.kind) vocabulary.comparison?
  predicates : ∀ rule ∈ vocabulary.dateRanges,
    rule.predicate ≠ [] ∧ ¬dateMark <:+: rule.predicate
  aggregationColumns : ∀ rule ∈ vocabulary.aggregations,
    rule.column = vocabulary.schema.fact.shortName ++ "." ++ vocabulary.schema.fact.metricValue ∨
      rule.column =
        vocabulary.schema.fact.shortName ++ "." ++ vocabulary.schema.fact.changePercent
  aggregationFunctions : ∀ rule ∈ vocabulary.aggregations,
    Tagged.tag rule.function ∈ (["SUM", "AVG", "COUNT", "MIN", "MAX"] : List Text)
  aggregationOutputs : ∀ rule ∈ vocabulary.aggregations, Text.IsName rule.output
  directions : ∀ rule ∈ vocabulary.comparisons,
    Tagged.tag rule.direction = "ASC" ∨ Tagged.tag rule.direction = "DESC"
  limitPatterns : ∀ rule ∈ vocabulary.limits.patterns, 0 < rule.pattern.groupCount
  limits : vocabulary.limits.defaultRanked ≤ vocabulary.limits.maximum ∧
    1 ≤ vocabulary.limits.maximum

/-! ## Names -/

theorem isName_of_isIdentifier {name : Text} (identifier : isIdentifier name = true) :
    Text.IsName name := by
  cases name with
  | nil => cases identifier
  | cons first rest =>
      simpa [isIdentifier, Text.IsName] using identifier

theorem not_mem_of_isIdentifier {name : Text} (identifier : isIdentifier name = true) {c : Char}
    (foreign : (c.isAlphanum || c == '_') = false) : c ∉ name := by
  obtain ⟨first, rest, rfl, begins, continues⟩ := isName_of_isIdentifier identifier
  simp only [Bool.or_eq_false_iff, beq_eq_false_iff_ne] at foreign
  intro member
  rcases List.mem_cons.mp member with rfl | later
  · rcases begins with letter | underscore
    · simp [Char.isAlphanum, letter] at foreign
    · exact foreign.2 underscore
  · rcases continues c later with part | underscore
    · rw [part] at foreign
      cases foreign.1
    · exact foreign.2 underscore

theorem departmentCode_known (code : Department) : Tagged.tag code ∈
    (["sales", "finance", "devrel", "hr", "events", "compliance"] : List Text) := by
  cases code <;> decide

theorem function_known (function : AggregateFunction) :
    Tagged.tag function ∈ (["SUM", "AVG", "COUNT", "MIN", "MAX"] : List Text) := by
  cases function <;> decide

theorem direction_known {direction : SortDirection} (sorted : direction ≠ .unsorted) :
    Tagged.tag direction = "ASC" ∨ Tagged.tag direction = "DESC" := by
  cases direction with
  | unsorted => exact absurd rfl sorted
  | ascending => exact .inl rfl
  | descending => exact .inr rfl

/-! ## Kinds -/

/-- Distinct kinds that are no placeholders identify their rules. -/
theorem KindsIdentify.of_distinct {α β : Type} [Tagged β] [LawfulTagged β] [DecidableEq β]
    {rules : List α} {kind : α → β} (distinct : (rules.map kind).Nodup)
    (named : ∀ rule ∈ rules,
      Tagged.tag (kind rule) ≠ "none" ∧ Tagged.tag (kind rule) ≠ "custom") :
    KindsIdentify rules kind fun wanted => rules.find? (kind · == wanted) := by
  constructor
  case distinct =>
    have tags := distinct.map (Tagged.tag_injective (α := β))
    rwa [List.map_map] at tags
  case named => exact named
  case found =>
    intro rule member
    exact find?_kind distinct member

theorem dateKind_named {kind : DateKind} (named : kind ≠ .none ∧ kind ≠ .custom) :
    Tagged.tag kind ≠ "none" ∧ Tagged.tag kind ≠ "custom" := by
  constructor
  · exact fun same => named.1 (Tagged.tag_injective same)
  · exact fun same => named.2 (Tagged.tag_injective same)

theorem aggregationKind_named {kind : AggregationKind} (named : kind ≠ .none) :
    Tagged.tag kind ≠ "none" ∧ Tagged.tag kind ≠ "custom" := by
  constructor
  · exact fun same => named (Tagged.tag_injective same)
  · cases kind <;> decide

theorem comparisonKind_named {kind : ComparisonKind} (named : kind ≠ .none) :
    Tagged.tag kind ≠ "none" ∧ Tagged.tag kind ≠ "custom" := by
  constructor
  · exact fun same => named (Tagged.tag_injective same)
  · cases kind <;> decide

/-! ## Predicates -/

/-- The date column cannot spell out a mark for it, alone or with what stands around it. -/
theorem WellFormed.predicate_unmarked {vocabulary : Vocabulary}
    (wellFormed : vocabulary.WellFormed) {rule : DateRangeRule}
    (member : rule ∈ vocabulary.dateRanges) :
    rule.predicate ≠ [] ∧ ¬dateMark <:+: rule.predicate := by
  obtain ⟨given, nonempty, placed⟩ := wellFormed.predicates rule member
  have shortName := wellFormed.factNames vocabulary.schema.fact.shortName
    (by simp [FactTable.names])
  have metricDate := wellFormed.factNames vocabulary.schema.fact.metricDate
    (by simp [FactTable.names, FactTable.columns])
  have absent : ∀ c : Char, (c.isAlphanum || c == '_') = false → c ≠ '.' →
      c ∉ vocabulary.schema.fact.column vocabulary.schema.fact.metricDate := by
    intro c foreign undotted
    simp only [FactTable.column, qualified, List.mem_append, not_or]
    exact ⟨⟨not_mem_of_isIdentifier shortName foreign, by simpa using undotted⟩,
      not_mem_of_isIdentifier metricDate foreign⟩
  have dotted : '.' ∈ vocabulary.schema.fact.column vocabulary.schema.fact.metricDate := by
    simp [FactTable.column, qualified]
  rw [placed]
  constructor
  · exact Text.replace_ne_nil (List.ne_nil_of_mem dotted) nonempty
  · exact @Text.not_infix_replace _ "date" '\x7b' '\x7d' '.' (absent _ (by decide) (by decide))
      (absent _ (by decide) (by decide)) dotted (by decide) given

/-! ## Whole vocabularies -/

/-- Reading a vocabulary gives it its form, whatever it is read from. -/
theorem canonical_of_read {raw : Value} {vocabulary : Vocabulary}
    (accepted : read raw = .ok vocabulary) : vocabulary.Canonical := by
  have wellFormed := wellFormed_of_read accepted
  obtain ⟨entries, rfl, source⟩ := readFrom_of_read accepted
  have limits := readLimits_eq_ok source.limits
  constructor
  case factNames =>
    exact fun name member => isName_of_isIdentifier (wellFormed.factNames name member)
  case dimensionNames =>
    exact fun name member => isName_of_isIdentifier (wellFormed.dimensionNames name member)
  case synonyms =>
    intro rule member
    obtain ⟨item, ruleRead⟩ := source.departments.exists_item member
    exact readDepartment_eq_ok ruleRead
  case datePhrases =>
    intro rule member
    obtain ⟨item, ruleRead⟩ := source.dateRanges.exists_item member
    exact (readDateRange_eq_ok ruleRead).1
  case aggregationKeywords =>
    intro rule member
    obtain ⟨item, ruleRead⟩ := source.aggregations.exists_item member
    exact (readAggregation_eq_ok ruleRead).1
  case metricKeywords => exact metricKeywords_of_read accepted
  case comparisonKeywords =>
    intro rule member
    obtain ⟨item, ruleRead⟩ := source.comparisons.exists_item member
    exact (readComparison_eq_ok ruleRead).1
  case departmentCodes =>
    have tags := source.departmentCodes.map (Tagged.tag_injective (α := Department))
    rwa [List.map_map] at tags
  case departmentsKnown =>
    intro code member
    obtain ⟨rule, -, rfl⟩ := List.mem_map.mp member
    exact departmentCode_known rule.code
  case dateKinds =>
    exact .of_distinct wellFormed.dateKinds
      fun rule member => dateKind_named (wellFormed.dateKindNamed rule member)
  case aggregationKinds =>
    exact .of_distinct wellFormed.aggregationKinds
      fun rule member => aggregationKind_named (wellFormed.aggregationKindNamed rule member)
  case comparisonKinds =>
    exact .of_distinct wellFormed.comparisonKinds
      fun rule member => comparisonKind_named (wellFormed.comparisonKindNamed rule member)
  case predicates => exact fun rule member => wellFormed.predicate_unmarked member
  case aggregationColumns => exact wellFormed.aggregationColumn
  case aggregationFunctions => exact fun rule _ => function_known rule.function
  case aggregationOutputs =>
    exact fun rule member => isName_of_isIdentifier (wellFormed.aggregationOutput rule member)
  case directions =>
    exact fun rule member => direction_known (sorted_of_read accepted rule member)
  case limitPatterns => exact limits.1
  case limits => exact ⟨limits.2.2, limits.2.1⟩

theorem sample_canonical :
    read sampleSource = .ok sampleVocabulary ∧ sampleVocabulary.Canonical :=
  ⟨read_sampleSource, canonical_of_read read_sampleSource⟩

end Vocabulary

end Inquiry
