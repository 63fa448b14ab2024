import Inquiry.Vocabulary.Reader
import Inquiry.Proofs.Outcome
import Inquiry.Proofs.Text.Case

/-!
# Vocabularies that were read

What reading a vocabulary ensures: names that are plain identifiers, rules of
pairwise distinct kinds, columns and predicates that are built from the names of
the contract, keywords without blanks at their ends, and a default row limit that
may be written.
-/

namespace Inquiry

/-- Every name of the fact table. -/
def FactTable.names (fact : FactTable) : List Text :=
  fact.table :: fact.shortName :: fact.columns

/-- Every name of the dimension table. -/
def DimensionTable.names (dimension : DimensionTable) : List Text :=
  dimension.table :: dimension.shortName :: dimension.columns

namespace Vocabulary

/-- What a vocabulary is sure to satisfy once it has been read. -/
structure WellFormed (vocabulary : Vocabulary) : Prop where
  factNames : ∀ name ∈ vocabulary.schema.fact.names, isIdentifier name = true
  dimensionNames : ∀ name ∈ vocabulary.schema.dimension.names, isIdentifier name = true
  shortNames : vocabulary.schema.fact.shortName ≠ vocabulary.schema.dimension.shortName
  dateKinds : (vocabulary.dateRanges.map (·.kind)).Nodup
  dateKindNamed : ∀ rule ∈ vocabulary.dateRanges, rule.kind ≠ .none ∧ rule.kind ≠ .custom
  /-- Predicates are given texts with the date column in the marked places. -/
  predicates : ∀ rule ∈ vocabulary.dateRanges, ∃ given : Text, given ≠ [] ∧
    rule.predicate = Text.replace dateMark
      (vocabulary.schema.fact.column vocabulary.schema.fact.metricDate) given
  aggregationKinds : (vocabulary.aggregations.map (·.kind)).Nodup
  aggregationKindNamed : ∀ rule ∈ vocabulary.aggregations, rule.kind ≠ .none
  aggregationColumn : ∀ rule ∈ vocabulary.aggregations,
    rule.column = vocabulary.schema.fact.column vocabulary.schema.fact.metricValue ∨
      rule.column = vocabulary.schema.fact.column vocabulary.schema.fact.changePercent
  aggregationOutput : ∀ rule ∈ vocabulary.aggregations, isIdentifier rule.output = true
  comparisonKinds : (vocabulary.comparisons.map (·.kind)).Nodup
  comparisonKindNamed : ∀ rule ∈ vocabulary.comparisons, rule.kind ≠ .none
  comparisonKeywords : ∀ rule ∈ vocabulary.comparisons, ∀ keyword ∈ rule.keywords,
    Text.strip keyword = keyword
  defaultRanked : vocabulary.limits.defaultRanked ≤ vocabulary.limits.maximum

/-! ## The sections one by one -/

theorem isIdentifier_of_identifier {entry : Value} {key place name : Text}
    (success : identifier entry key place = .ok name) : isIdentifier name = true := by
  obtain ⟨entries, -, success⟩ := Outcome.bind_eq_ok.mp success
  split at success
  · split at success
    · cases success
      assumption
    · cases success
  · cases success

theorem factNames_of_readFact {raw : Value} {fact : FactTable}
    (success : readFact raw = .ok fact) : ∀ name ∈ fact.names, isIdentifier name = true := by
  obtain ⟨table, tableRead, success⟩ := Outcome.bind_eq_ok.mp success
  obtain ⟨shortName, shortNameRead, success⟩ := Outcome.bind_eq_ok.mp success
  obtain ⟨departmentKey, departmentKeyRead, success⟩ := Outcome.bind_eq_ok.mp success
  obtain ⟨metricName, metricNameRead, success⟩ := Outcome.bind_eq_ok.mp success
  obtain ⟨metricValue, metricValueRead, success⟩ := Outcome.bind_eq_ok.mp success
  obtain ⟨metricDate, metricDateRead, success⟩ := Outcome.bind_eq_ok.mp success
  obtain ⟨changePercent, changePercentRead, success⟩ := Outcome.bind_eq_ok.mp success
  obtain rfl := Outcome.pure_eq_ok.mp success
  simp only [FactTable.names, FactTable.columns, List.mem_cons, List.not_mem_nil, or_false]
  rintro name (rfl | rfl | rfl | rfl | rfl | rfl | rfl)
  · exact isIdentifier_of_identifier tableRead
  · exact isIdentifier_of_identifier shortNameRead
  · exact isIdentifier_of_identifier departmentKeyRead
  · exact isIdentifier_of_identifier metricNameRead
  · exact isIdentifier_of_identifier metricValueRead
  · exact isIdentifier_of_identifier metricDateRead
  · exact isIdentifier_of_identifier changePercentRead

theorem dimensionNames_of_readDimension {raw : Value} {dimension : DimensionTable}
    (success : readDimension raw = .ok dimension) :
    ∀ name ∈ dimension.names, isIdentifier name = true := by
  obtain ⟨table, tableRead, success⟩ := Outcome.bind_eq_ok.mp success
  obtain ⟨shortName, shortNameRead, success⟩ := Outcome.bind_eq_ok.mp success
  obtain ⟨key, keyRead, success⟩ := Outcome.bind_eq_ok.mp success
  obtain ⟨columnName, columnNameRead, success⟩ := Outcome.bind_eq_ok.mp success
  obtain ⟨code, codeRead, success⟩ := Outcome.bind_eq_ok.mp success
  obtain rfl := Outcome.pure_eq_ok.mp success
  simp only [DimensionTable.names, DimensionTable.columns, List.mem_cons,
    List.not_mem_nil, or_false]
  rintro name (rfl | rfl | rfl | rfl | rfl)
  · exact isIdentifier_of_identifier tableRead
  · exact isIdentifier_of_identifier shortNameRead
  · exact isIdentifier_of_identifier keyRead
  · exact isIdentifier_of_identifier columnNameRead
  · exact isIdentifier_of_identifier codeRead

/-- A contract consists of two tables that were read, under distinct short names. -/
theorem readSchema_eq_ok {raw : Value} {contract : SchemaContract}
    (success : readSchema raw = .ok contract) :
    (∃ entry, readFact entry = .ok contract.fact) ∧
      (∃ entry, readDimension entry = .ok contract.dimension) ∧
      contract.fact.shortName ≠ contract.dimension.shortName := by
  simp only [readSchema] at success
  split at success
  · cases success
  · obtain ⟨hasFact, -, success⟩ := Outcome.bind_eq_ok.mp success
    split at success
    · cases success
    · obtain ⟨hasDimension, -, success⟩ := Outcome.bind_eq_ok.mp success
      split at success
      · cases success
      · obtain ⟨entries, -, success⟩ := Outcome.bind_eq_ok.mp success
        obtain ⟨fact, factRead, success⟩ := Outcome.bind_eq_ok.mp success
        obtain ⟨dimension, dimensionRead, success⟩ := Outcome.bind_eq_ok.mp success
        split at success
        · cases success
        next distinct =>
          obtain rfl := Outcome.pure_eq_ok.mp success
          exact ⟨⟨_, factRead⟩, ⟨_, dimensionRead⟩, distinct⟩

/-- Phrases are kept as questions are searched for them. -/
theorem phrases_eq_ok {entries : List (Value × Value)} {key place : Text}
    {found : List Text} (success : phrases entries key place = .ok found) :
    ∀ phrase ∈ found, Text.IsPhrase phrase := by
  obtain ⟨values, -, success⟩ := Outcome.bind_eq_ok.mp success
  obtain ⟨spelled, -, success⟩ := Outcome.bind_eq_ok.mp success
  dsimp only at success
  split at success
  · cases success
  · cases success
    intro phrase member
    obtain ⟨spelled, kept, rfl⟩ := List.mem_map.mp member
    have spoken : Text.strip spelled ≠ [] := by simpa using (List.mem_filter.mp kept).2
    exact Text.isPhrase_strip_lower (Text.strip_lower_ne_nil spoken)

theorem readDepartment_eq_ok {raw : Value} {rule : DepartmentRule}
    (success : readDepartment raw = .ok rule) :
    ∀ synonym ∈ rule.synonyms, Text.IsPhrase synonym := by
  obtain ⟨entries, -, success⟩ := Outcome.bind_eq_ok.mp success
  obtain ⟨given, -, success⟩ := Outcome.bind_eq_ok.mp success
  dsimp only at success
  split at success
  · cases success
  next code found =>
    obtain ⟨synonyms, synonymsRead, success⟩ := Outcome.bind_eq_ok.mp success
    obtain rfl := Outcome.pure_eq_ok.mp success
    exact phrases_eq_ok synonymsRead

theorem allowed_of_kindOf {α : Type} [Tagged α] {allowed : α → Bool}
    {entries : List (Value × Value)} {kind : α}
    (found : kindOf allowed entries = some kind) : allowed kind = true := by
  obtain ⟨tag, -, found⟩ := Option.bind_eq_some_iff.mp found
  exact (Option.filter_eq_some_iff.mp found).2

/-- The condition that an entry gives for a date window. -/
def givenPredicate (raw : Value) : Text :=
  match raw.entries with
  | .ok entries => Text.strip ((displayed entries "predicate").toOption.getD [])
  | .error _ => []

theorem readDateRange_eq_ok {contract : SchemaContract} {raw : Value}
    {rule : DateRangeRule} (success : readDateRange contract raw = .ok rule) :
    (∀ phrase ∈ rule.phrases, Text.IsPhrase phrase) ∧
      (rule.kind ≠ .none ∧ rule.kind ≠ .custom) ∧
      givenPredicate raw ≠ [] ∧ rule.predicate = Text.replace dateMark
        (contract.fact.column contract.fact.metricDate) (givenPredicate raw) := by
  obtain ⟨entries, entriesFound, success⟩ := Outcome.bind_eq_ok.mp success
  split at success
  · cases success
  next kind found =>
    obtain ⟨written, writtenFound, success⟩ := Outcome.bind_eq_ok.mp success
    dsimp only at success
    split at success
    · cases success
    next present =>
      obtain ⟨phrases, phrasesRead, success⟩ := Outcome.bind_eq_ok.mp success
      obtain rfl := Outcome.pure_eq_ok.mp success
      have given : givenPredicate raw = Text.strip written := by
        rw [givenPredicate, entriesFound]
        simp only [writtenFound, Except.toOption, Option.getD_some]
      rw [given]
      refine ⟨phrases_eq_ok phrasesRead, by simpa using allowed_of_kindOf found, ?_, rfl⟩
      simpa using present

theorem summarised_eq_some {fact : FactTable} {role : Value} {name : Text}
    (found : summarised? fact role = some name) :
    name = fact.metricValue ∨ name = fact.changePercent := by
  cases role with
  | text roleName =>
      simp only [summarised?] at found
      split at found
      · exact .inl (Option.some.inj found).symm
      · split at found
        · exact .inr (Option.some.inj found).symm
        · cases found
  | _ => cases found

theorem readAggregation_eq_ok {contract : SchemaContract} {raw : Value}
    {rule : AggregationRule} (success : readAggregation contract raw = .ok rule) :
    (∀ keyword ∈ rule.keywords, Text.IsPhrase keyword) ∧ rule.kind ≠ .none ∧
      (rule.column = contract.fact.column contract.fact.metricValue ∨
        rule.column = contract.fact.column contract.fact.changePercent) ∧
      isIdentifier rule.output = true := by
  obtain ⟨entries, -, success⟩ := Outcome.bind_eq_ok.mp success
  split at success
  · cases success
  next kind kindFound =>
    obtain ⟨given, -, success⟩ := Outcome.bind_eq_ok.mp success
    dsimp only at success
    split at success
    · cases success
    next function =>
      split at success
      · cases success
      next name nameFound =>
        obtain ⟨keywords, keywordsRead, success⟩ := Outcome.bind_eq_ok.mp success
        obtain ⟨output, outputRead, success⟩ := Outcome.bind_eq_ok.mp success
        obtain rfl := Outcome.pure_eq_ok.mp success
        refine ⟨phrases_eq_ok keywordsRead, by simpa using allowed_of_kindOf kindFound, ?_,
          isIdentifier_of_identifier outputRead⟩
        rcases summarised_eq_some nameFound with rfl | rfl
        · exact .inl rfl
        · exact .inr rfl

theorem readMetric_eq_ok {raw : Value} {rule : MetricRule}
    (success : readMetric raw = .ok rule) : Text.IsPhrase rule.keyword ∧ rule.names ≠ [] := by
  obtain ⟨entries, -, success⟩ := Outcome.bind_eq_ok.mp success
  obtain ⟨given, -, success⟩ := Outcome.bind_eq_ok.mp success
  dsimp only at success
  split at success
  · cases success
  next spoken =>
    obtain ⟨names, -, success⟩ := Outcome.bind_eq_ok.mp success
    split at success
    · cases success
    next named =>
      obtain rfl := Outcome.pure_eq_ok.mp success
      exact ⟨Text.isPhrase_strip_lower (by simpa using spoken), by simpa using named⟩

theorem readComparison_eq_ok {raw : Value} {rule : ComparisonRule}
    (success : readComparison raw = .ok rule) :
    (∀ keyword ∈ rule.keywords, Text.IsPhrase keyword) ∧ rule.kind ≠ .none ∧
      rule.direction ≠ .unsorted := by
  obtain ⟨entries, -, success⟩ := Outcome.bind_eq_ok.mp success
  split at success
  · cases success
  next kind found =>
    obtain ⟨given, -, success⟩ := Outcome.bind_eq_ok.mp success
    dsimp only at success
    split at success
    · cases success
    next direction directionFound =>
      obtain ⟨keywords, keywordsRead, success⟩ := Outcome.bind_eq_ok.mp success
      obtain rfl := Outcome.pure_eq_ok.mp success
      have sorted := (Option.filter_eq_some_iff.mp directionFound).2
      exact ⟨phrases_eq_ok keywordsRead, by simpa using allowed_of_kindOf found,
        by simpa using sorted⟩

theorem groupCount_of_readPattern {raw : Value} {rule : LimitPattern}
    (success : readPattern raw = .ok rule) : 0 < rule.pattern.groupCount := by
  cases raw with
  | text source =>
      simp only [readPattern] at success
      split at success
      · cases success
      next pattern parsed =>
        split at success
        · cases success
        next captures =>
          cases success
          exact Nat.pos_of_ne_zero captures
  | _ => cases success

/-- Every pattern captures something, and the limit of a ranking that names none may be
written. -/
theorem readLimits_eq_ok {raw : Value} {rules : LimitRules}
    (success : readLimits raw = .ok rules) :
    (∀ rule ∈ rules.patterns, 0 < rule.pattern.groupCount) ∧ 1 ≤ rules.maximum ∧
      rules.defaultRanked ≤ rules.maximum := by
  obtain ⟨entries, -, success⟩ := Outcome.bind_eq_ok.mp success
  obtain ⟨listed, -, success⟩ := Outcome.bind_eq_ok.mp success
  obtain ⟨patterns, patternsRead, success⟩ := Outcome.bind_eq_ok.mp success
  obtain ⟨default, -, success⟩ := Outcome.bind_eq_ok.mp success
  obtain ⟨maximum, -, success⟩ := Outcome.bind_eq_ok.mp success
  split at success
  · obtain ⟨_, -, success⟩ := Outcome.bind_eq_ok.mp success
    obtain ⟨_, -, success⟩ := Outcome.bind_eq_ok.mp success
    cases success
  next bounded =>
    obtain rfl := Outcome.pure_eq_ok.mp success
    refine ⟨fun rule member => ?_, ?_⟩
    · obtain ⟨item, -, ruleRead⟩ := Outcome.exists_of_mem_mapM patternsRead member
      exact groupCount_of_readPattern ruleRead
    · simp only
      omega

/-! ## Distinct kinds -/

theorem mem_repeatedTags {tags : List Text} {tag : Text} :
    tag ∈ repeatedTags tags ↔ tag ∈ tags ∧ 1 < tags.count tag := by
  rw [repeatedTags, List.mem_mergeSort, List.mem_eraseDups, List.mem_filter,
    decide_eq_true_eq]

/-- A section passes exactly when no tag occurs more than once. -/
theorem requireDistinct_eq_ok {tags : List Text} {place : Text} :
    requireDistinct tags place = .ok () ↔ tags.Nodup := by
  have noneRepeated : repeatedTags tags = [] ↔ tags.Nodup := by
    rw [List.eq_nil_iff_forall_not_mem, List.nodup_iff_count_le_one]
    constructor
    · intro absent tag
      by_contra twice
      have member : tag ∈ tags := List.count_pos_iff.mp (by omega)
      exact absent tag (mem_repeatedTags.mpr ⟨member, by omega⟩)
    · intro once tag member
      have twice := (mem_repeatedTags.mp member).2
      have := once tag
      omega
  rw [← noneRepeated, requireDistinct]
  cases found : repeatedTags tags with
  | nil => simp
  | cons tag rest => simp

/-- Distinct tags belong to distinct kinds. -/
theorem nodup_of_requireDistinct {α β : Type} [Tagged β] {rules : List α} {kind : α → β}
    {place : Text}
    (success : requireDistinct (rules.map fun rule => Tagged.tag (kind rule)) place = .ok ()) :
    (rules.map kind).Nodup := by
  have tags : ((rules.map kind).map Tagged.tag).Nodup := by
    simpa [List.map_map, Function.comp_def] using requireDistinct_eq_ok.mp success
  exact tags.of_map

/-! ## Whole vocabularies -/

/-- The rules of a section are what its entries read as. -/
def ReadSection {α : Type} (entries : List (Value × Value)) (name : Text)
    (readRule : Value → Except Fault α) (rules : List α) : Prop :=
  ∃ items, sectionItems entries name = .ok items ∧ items.mapM readRule = .ok rules

theorem ReadSection.exists_item {α : Type} {entries : List (Value × Value)} {name : Text}
    {readRule : Value → Except Fault α} {rules : List α}
    (source : ReadSection entries name readRule rules) {rule : α} (member : rule ∈ rules) :
    ∃ item, readRule item = .ok rule := by
  obtain ⟨items, -, rulesRead⟩ := source
  obtain ⟨item, -, ruleRead⟩ := Outcome.exists_of_mem_mapM rulesRead member
  exact ⟨item, ruleRead⟩

/-- The sections of a vocabulary are what those of a source read as. -/
structure ReadFrom (entries : List (Value × Value)) (vocabulary : Vocabulary) : Prop where
  schema : readSchema ((Value.lookup? "schema" entries).getD .null) = .ok vocabulary.schema
  departments : ReadSection entries "departments" readDepartment vocabulary.departments
  dateRanges : ReadSection entries "date_ranges" (readDateRange vocabulary.schema)
    vocabulary.dateRanges
  aggregations : ReadSection entries "aggregations" (readAggregation vocabulary.schema)
    vocabulary.aggregations
  metrics : ReadSection entries "metrics" readMetric vocabulary.metrics
  comparisons : ReadSection entries "comparisons" readComparison vocabulary.comparisons
  departmentCodes : (vocabulary.departments.map (·.code)).Nodup
  dateKinds : (vocabulary.dateRanges.map (·.kind)).Nodup
  aggregationKinds : (vocabulary.aggregations.map (·.kind)).Nodup
  comparisonKinds : (vocabulary.comparisons.map (·.kind)).Nodup
  limits : readLimits ((Value.lookup? "limits" entries).getD .null) = .ok vocabulary.limits

theorem readFrom_of_read {raw : Value} {vocabulary : Vocabulary}
    (accepted : read raw = .ok vocabulary) :
    ∃ entries, raw = .mapping entries ∧ ReadFrom entries vocabulary := by
  cases raw with
  | mapping entries =>
      simp only [read] at accepted
      obtain ⟨schema, schemaRead, accepted⟩ := Outcome.bind_eq_ok.mp accepted
      obtain ⟨departmentItems, departmentItemsRead, accepted⟩ := Outcome.bind_eq_ok.mp accepted
      obtain ⟨departments, departmentsRead, accepted⟩ := Outcome.bind_eq_ok.mp accepted
      obtain ⟨dateItems, dateItemsRead, accepted⟩ := Outcome.bind_eq_ok.mp accepted
      obtain ⟨dateRanges, datesRead, accepted⟩ := Outcome.bind_eq_ok.mp accepted
      obtain ⟨aggregationItems, aggregationItemsRead, accepted⟩ :=
        Outcome.bind_eq_ok.mp accepted
      obtain ⟨aggregations, aggregationsRead, accepted⟩ := Outcome.bind_eq_ok.mp accepted
      obtain ⟨metricItems, metricItemsRead, accepted⟩ := Outcome.bind_eq_ok.mp accepted
      obtain ⟨metrics, metricsRead, accepted⟩ := Outcome.bind_eq_ok.mp accepted
      obtain ⟨comparisonItems, comparisonItemsRead, accepted⟩ := Outcome.bind_eq_ok.mp accepted
      obtain ⟨comparisons, comparisonsRead, accepted⟩ := Outcome.bind_eq_ok.mp accepted
      obtain ⟨_, departmentsDistinct, accepted⟩ := Outcome.bind_eq_ok.mp accepted
      obtain ⟨_, datesDistinct, accepted⟩ := Outcome.bind_eq_ok.mp accepted
      obtain ⟨_, aggregationsDistinct, accepted⟩ := Outcome.bind_eq_ok.mp accepted
      obtain ⟨_, comparisonsDistinct, accepted⟩ := Outcome.bind_eq_ok.mp accepted
      obtain ⟨limits, limitsRead, accepted⟩ := Outcome.bind_eq_ok.mp accepted
      obtain rfl := Outcome.pure_eq_ok.mp accepted
      refine ⟨entries, rfl, ?_⟩
      constructor
      case schema => exact schemaRead
      case departments => exact ⟨departmentItems, departmentItemsRead, departmentsRead⟩
      case dateRanges => exact ⟨dateItems, dateItemsRead, datesRead⟩
      case aggregations => exact ⟨aggregationItems, aggregationItemsRead, aggregationsRead⟩
      case metrics => exact ⟨metricItems, metricItemsRead, metricsRead⟩
      case comparisons => exact ⟨comparisonItems, comparisonItemsRead, comparisonsRead⟩
      case departmentCodes => exact nodup_of_requireDistinct departmentsDistinct
      case dateKinds => exact nodup_of_requireDistinct datesDistinct
      case aggregationKinds => exact nodup_of_requireDistinct aggregationsDistinct
      case comparisonKinds => exact nodup_of_requireDistinct comparisonsDistinct
      case limits => exact limitsRead
  | _ => cases accepted

/-- A vocabulary that was read is well formed. -/
theorem wellFormed_of_read {raw : Value} {vocabulary : Vocabulary}
    (accepted : read raw = .ok vocabulary) : vocabulary.WellFormed := by
  obtain ⟨entries, rfl, source⟩ := readFrom_of_read accepted
  obtain ⟨⟨factEntry, factRead⟩, ⟨dimensionEntry, dimensionRead⟩, distinct⟩ :=
    readSchema_eq_ok source.schema
  constructor
  case factNames => exact factNames_of_readFact factRead
  case dimensionNames => exact dimensionNames_of_readDimension dimensionRead
  case shortNames => exact distinct
  case dateKinds => exact source.dateKinds
  case dateKindNamed =>
    intro rule member
    obtain ⟨item, ruleRead⟩ := source.dateRanges.exists_item member
    exact (readDateRange_eq_ok ruleRead).2.1
  case predicates =>
    intro rule member
    obtain ⟨item, ruleRead⟩ := source.dateRanges.exists_item member
    exact ⟨givenPredicate item, (readDateRange_eq_ok ruleRead).2.2⟩
  case aggregationKinds => exact source.aggregationKinds
  case aggregationKindNamed =>
    intro rule member
    obtain ⟨item, ruleRead⟩ := source.aggregations.exists_item member
    exact (readAggregation_eq_ok ruleRead).2.1
  case aggregationColumn =>
    intro rule member
    obtain ⟨item, ruleRead⟩ := source.aggregations.exists_item member
    exact (readAggregation_eq_ok ruleRead).2.2.1
  case aggregationOutput =>
    intro rule member
    obtain ⟨item, ruleRead⟩ := source.aggregations.exists_item member
    exact (readAggregation_eq_ok ruleRead).2.2.2
  case comparisonKinds => exact source.comparisonKinds
  case comparisonKindNamed =>
    intro rule member
    obtain ⟨item, ruleRead⟩ := source.comparisons.exists_item member
    exact (readComparison_eq_ok ruleRead).2.1
  case comparisonKeywords =>
    intro rule member keyword listed
    obtain ⟨item, ruleRead⟩ := source.comparisons.exists_item member
    exact ((readComparison_eq_ok ruleRead).1 keyword listed).stripped
  case defaultRanked => exact (readLimits_eq_ok source.limits).2.2

theorem sorted_of_read {raw : Value} {vocabulary : Vocabulary}
    (accepted : read raw = .ok vocabulary) :
    ∀ rule ∈ vocabulary.comparisons, rule.direction ≠ .unsorted := by
  obtain ⟨entries, rfl, source⟩ := readFrom_of_read accepted
  intro rule member
  obtain ⟨item, ruleRead⟩ := source.comparisons.exists_item member
  exact (readComparison_eq_ok ruleRead).2.2

theorem metricKeywords_of_read {raw : Value} {vocabulary : Vocabulary}
    (accepted : read raw = .ok vocabulary) :
    ∀ rule ∈ vocabulary.metrics, Text.IsPhrase rule.keyword := by
  obtain ⟨entries, rfl, source⟩ := readFrom_of_read accepted
  intro rule member
  obtain ⟨item, ruleRead⟩ := source.metrics.exists_item member
  exact (readMetric_eq_ok ruleRead).1

/-- The conditions for date windows that a source gives, in order. -/
def givenPredicates (raw : Value) : List Text :=
  match raw with
  | .mapping entries =>
      match sectionItems entries "date_ranges" with
      | .ok items => items.map givenPredicate
      | .error _ => []
  | _ => []

/-- The date conditions of a vocabulary are the given ones, with the date column in the
marked places. -/
theorem predicates_of_read {raw : Value} {vocabulary : Vocabulary}
    (accepted : read raw = .ok vocabulary) :
    vocabulary.dateRanges.map (·.predicate) = (givenPredicates raw).map (Text.replace dateMark
      (vocabulary.schema.fact.column vocabulary.schema.fact.metricDate)) := by
  obtain ⟨entries, rfl, source⟩ := readFrom_of_read accepted
  obtain ⟨items, itemsRead, rulesRead⟩ := source.dateRanges
  have kept := Outcome.map_eq_of_mapM
    (fun _ _ _ ruleRead => (readDateRange_eq_ok ruleRead).2.2.2) rulesRead
  rw [kept, givenPredicates, itemsRead, List.map_map]
  rfl

/-! ## Rules by their kinds -/

/-- The first rule of a kind is the only one. -/
theorem find?_kind {α β : Type} [DecidableEq β] {rules : List α} {kind : α → β}
    (distinct : (rules.map kind).Nodup) {rule : α} (member : rule ∈ rules) :
    rules.find? (kind · == kind rule) = some rule := by
  cases search : rules.find? (kind · == kind rule) with
  | none =>
      have absent := List.find?_eq_none.mp search rule member
      simp at absent
  | some found =>
      have same : kind found = kind rule := by simpa using List.find?_some search
      rw [List.inj_on_of_nodup_map distinct (List.mem_of_find?_eq_some search) member same]

namespace WellFormed

variable {vocabulary : Vocabulary}

theorem aggregation_mem {kind : AggregationKind} {rule : AggregationRule}
    (found : vocabulary.aggregation? kind = some rule) : rule ∈ vocabulary.aggregations :=
  List.mem_of_find?_eq_some found

theorem aggregation?_kind (wellFormed : vocabulary.WellFormed) {rule : AggregationRule}
    (member : rule ∈ vocabulary.aggregations) :
    vocabulary.aggregation? rule.kind = some rule :=
  find?_kind wellFormed.aggregationKinds member

theorem dateRange?_kind (wellFormed : vocabulary.WellFormed) {rule : DateRangeRule}
    (member : rule ∈ vocabulary.dateRanges) : vocabulary.dateRange? rule.kind = some rule :=
  find?_kind wellFormed.dateKinds member

theorem dateRange?_eq_none (wellFormed : vocabulary.WellFormed) {kind : DateKind}
    (unnamed : kind = .none ∨ kind = .custom) : vocabulary.dateRange? kind = none := by
  rw [dateRange?, List.find?_eq_none]
  intro rule listed same
  have named := wellFormed.dateKindNamed rule listed
  rw [beq_iff_eq.mp same] at named
  rcases unnamed with rfl | rfl
  · exact named.1 rfl
  · exact named.2 rfl

theorem aggregation?_none (wellFormed : vocabulary.WellFormed) :
    vocabulary.aggregation? .none = none := by
  rw [aggregation?, List.find?_eq_none]
  intro rule member
  simpa using wellFormed.aggregationKindNamed rule member

end WellFormed

/-! ## A small vocabulary -/

/-- The source of a vocabulary with one rule of each sort. -/
def sampleSource : Value := .record
  [("schema", .record
     [("fact", .record
        [("table", .text "readings"), ("alias", .text "r"),
         ("department_key", .text "site_id"), ("metric_name", .text "label"),
         ("metric_value", .text "amount"), ("metric_date", .text "taken_on"),
         ("change_percent", .text "change")]),
      ("dimension", .record
        [("table", .text "sites"), ("alias", .text "s"), ("key", .text "id"),
         ("name", .text "title"), ("code", .text "code")])]),
   ("departments", .list
     [.record [("code", .text "hr"), ("synonyms", .texts ["people"])]]),
   ("date_ranges", .list
     [.record [("kind", .text "q1"), ("phrases", .texts ["spring"]),
       ("predicate", .text "\x7bdate\x7d < 4")]]),
   ("aggregations", .list
     [.record [("kind", .text "sum"), ("keywords", .texts ["total"]),
       ("function", .text "sum"), ("output", .text "total")]]),
   ("metrics", .list
     [.record [("keyword", .text "rain"), ("names", .texts ["rain", "snow"])]]),
   ("comparisons", .list
     [.record [("kind", .text "top"), ("keywords", .texts ["most"]),
       ("direction", .text "desc")]])]

/-- The vocabulary that `sampleSource` describes. -/
def sampleVocabulary : Vocabulary where
  version := .int 1
  schema :=
    { fact :=
        { table := "readings"
          shortName := "r"
          departmentKey := "site_id"
          metricName := "label"
          metricValue := "amount"
          metricDate := "taken_on"
          changePercent := "change" }
      dimension :=
        { table := "sites", shortName := "s", key := "id", name := "title"
          code := "code" } }
  departments := [{ code := .hr, synonyms := ["people"] }]
  dateRanges :=
    [{ kind := .q1, phrases := ["spring"], predicate := "r.taken_on < 4"
       label := .text "q1" }]
  aggregations :=
    [{ kind := .sum
       keywords := ["total"]
       function := .sum
       column := "r.amount"
       output := "total"
       label := .text "calculate sum of" }]
  metrics := [{ keyword := "rain", names := [.text "rain", .text "snow"] }]
  comparisons := [{ kind := .top, keywords := ["most"], direction := .descending }]
  limits := { patterns := [], defaultRanked := 10, maximum := 1000 }

set_option maxRecDepth 20000 in
theorem read_sampleSource : read sampleSource = .ok sampleVocabulary := by
  with_unfolding_all rfl

end Vocabulary

end Inquiry
