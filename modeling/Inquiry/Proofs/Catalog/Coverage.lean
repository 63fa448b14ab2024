import Inquiry.Proofs.Catalog.Contract
import Inquiry.Proofs.Statement.References

/-!
# Catalogs and the statements they answer

A catalog that lacks nothing of a contract is meant to have every column that statements
refer to.  It does if the two tables go by different names.

Under one name only the columns of the dimension table are required.  Then the catalog
is sure to have every column exactly when the dimension table lists those columns of
the fact table that statements refer to.
-/

namespace Inquiry

open Statement (references)

namespace Catalog

/-- A reference names a column of the table that its short name stands for. -/
inductive Resolves (catalog : Catalog) (contract : SchemaContract) : Reference → Prop where
  | fact {column : Text} (has : catalog.HasColumn contract.fact.table column) :
      Resolves catalog contract { shortName := contract.fact.shortName, column }
  | dimension {column : Text} (has : catalog.HasColumn contract.dimension.table column) :
      Resolves catalog contract { shortName := contract.dimension.shortName, column }

/-- Distinct short names leave no doubt about the table. -/
theorem hasColumn_of_resolves {catalog : Catalog} {contract : SchemaContract}
    (distinct : contract.fact.shortName ≠ contract.dimension.shortName) {column : Text}
    (resolves : catalog.Resolves contract { shortName := contract.fact.shortName, column }) :
    catalog.HasColumn contract.fact.table column := by
  generalize whole : ({ shortName := contract.fact.shortName, column } : Reference) =
    reference at resolves
  cases resolves with
  | fact has =>
      obtain ⟨-, rfl⟩ := Reference.mk.inj whole
      exact has
  | dimension has => exact absurd (Reference.mk.inj whole).1 distinct

end Catalog

/-- The reference that takes the place of the mark in date conditions. -/
def Vocabulary.dateReference (vocabulary : Vocabulary) : Reference where
  shortName := vocabulary.schema.fact.shortName
  column := vocabulary.schema.fact.metricDate

/-- All that the statement for an intent refers to resolves, within its date condition the
date column.  The rest of the date condition is the vocabulary's own text. -/
def Catalog.Covers (catalog : Catalog) (vocabulary : Vocabulary) (style : ParamStyle)
    (intent : Intent) : Prop :=
  ∃ before after,
    references (assemble vocabulary style intent).sql =
      before ++ references intent.dateRange.predicate ++ after ∧
    ∀ reference ∈ before ++ vocabulary.dateReference :: after,
      catalog.Resolves vocabulary.schema reference

/-- The dimension table lists the columns of the fact table that statements refer to, in
small or capital letters. -/
def Vocabulary.FactWithinDimension (vocabulary : Vocabulary) : Prop :=
  ∀ column ∈ vocabulary.factColumns, ∃ listed ∈ vocabulary.schema.dimension.columns,
    Text.lower listed = Text.lower column

namespace Vocabulary.WellFormed

variable {vocabulary : Vocabulary}

/-! ## Catalogs that have the columns -/

theorem dateReference_refers (vocabulary : Vocabulary) :
    vocabulary.Refers vocabulary.dateReference :=
  .fact (by simp [factColumns])

theorem resolves_of_refers {catalog : Catalog}
    (satisfied : catalog.missing vocabulary.schema = .ok [])
    (listed : vocabulary.schema.fact.table = vocabulary.schema.dimension.table →
      vocabulary.FactWithinDimension)
    {reference : Reference} (refers : vocabulary.Refers reference) :
    catalog.Resolves vocabulary.schema reference := by
  obtain ⟨fact, dimension⟩ := Catalog.missing_eq_nil.mp satisfied
  cases refers with
  | @fact column member =>
      apply Catalog.Resolves.fact
      by_cases shared : vocabulary.schema.fact.table = vocabulary.schema.dimension.table
      · obtain ⟨other, otherListed, same⟩ := listed shared column member
        rw [shared, ← Catalog.hasColumn_congr same]
        exact dimension other otherListed
      · exact fact shared column (factColumns_subset member)
  | dimension member => exact .dimension (dimension _ member)

theorem covers_of_missing (wellFormed : vocabulary.WellFormed) {catalog : Catalog}
    (satisfied : catalog.missing vocabulary.schema = .ok [])
    (listed : vocabulary.schema.fact.table = vocabulary.schema.dimension.table →
      vocabulary.FactWithinDimension)
    (style : ParamStyle) (intent : Intent) : catalog.Covers vocabulary style intent := by
  obtain ⟨before, after, parted, refers⟩ := wellFormed.references_sql style intent
  refine ⟨before, after, parted, ?_⟩
  intro reference member
  apply resolves_of_refers satisfied listed
  rcases List.mem_append.mp member with early | late
  · exact refers reference (List.mem_append_left after early)
  · rcases List.mem_cons.mp late with rfl | late
    · exact dateReference_refers vocabulary
    · exact refers reference (List.mem_append_right before late)

/-! ## Statements that refer to the columns -/

theorem references_of_namesBefore (wellFormed : vocabulary.WellFormed) {intent : Intent}
    {column : Text} (member : column ∈ vocabulary.factColumns)
    (written : vocabulary.schema.fact.column column ∈ (intent.statement vocabulary).namesBefore)
    (style : ParamStyle) :
    ({ shortName := vocabulary.schema.fact.shortName, column } : Reference) ∈
      references (assemble vocabulary style intent).sql := by
  have whole := Statement.reading_references.read_render style (intent.statement vocabulary)
  have here : ({ shortName := vocabulary.schema.fact.shortName, column } : Reference) ∈
      (intent.statement vocabulary).namesBefore.flatMap references :=
    List.mem_flatMap.mpr ⟨_, written, by simp [wellFormed.references_fact member]⟩
  rw [assemble, whole]
  simp only [List.mem_append]
  exact .inl (.inl (.inl here))

/-- Every column of the fact table that counts is referred to by some statement without a
date condition. -/
theorem exists_reference (wellFormed : vocabulary.WellFormed) {column : Text}
    (member : column ∈ vocabulary.factColumns) (style : ParamStyle) :
    ∃ intent : Intent, intent.dateRange = {} ∧
      ({ shortName := vocabulary.schema.fact.shortName, column } : Reference) ∈
        references (assemble vocabulary style intent).sql := by
  by_cases change : ∃ rule ∈ vocabulary.aggregations,
      rule.column = vocabulary.schema.fact.column column
  · obtain ⟨rule, listed, computed⟩ := change
    refine ⟨{ aggregation := { kind := rule.kind } }, rfl,
      wellFormed.references_of_namesBefore member ?_ style⟩
    simp [Statement.namesBefore, Intent.statement, wellFormed.aggregation?_kind listed,
      Intent.selectItems, SelectItem.names, Expression.names, ← computed]
  · refine ⟨{}, rfl, wellFormed.references_of_namesBefore member ?_ style⟩
    have always : column ∈ [vocabulary.schema.fact.departmentKey,
        vocabulary.schema.fact.metricName, vocabulary.schema.fact.metricValue,
        vocabulary.schema.fact.metricDate] := by
      simp only [factColumns, List.mem_append] at member
      rcases member with always | changePercent
      · exact always
      · split at changePercent
        next used =>
          obtain rfl := List.mem_singleton.mp changePercent
          obtain ⟨rule, listed, computed⟩ := List.any_eq_true.mp used
          exact absurd ⟨rule, listed, beq_iff_eq.mp computed⟩ change
        next => simp at changePercent
    simp only [List.mem_cons, List.not_mem_nil, or_false] at always
    rcases always with rfl | rfl | rfl | rfl <;>
      simp [Statement.namesBefore, Intent.statement, wellFormed.aggregation?_none,
        Intent.selectItems, SelectItem.names, Expression.names]

end Vocabulary.WellFormed

/-- A catalog that covers a statement without a date condition has every column of the
fact table that the statement refers to. -/
theorem Catalog.Covers.hasColumn {vocabulary : Vocabulary} {catalog : Catalog}
    {style : ParamStyle} {intent : Intent} (covers : catalog.Covers vocabulary style intent)
    (distinct : vocabulary.schema.fact.shortName ≠ vocabulary.schema.dimension.shortName)
    (undated : intent.dateRange.predicate = []) {column : Text}
    (refers : { shortName := vocabulary.schema.fact.shortName, column } ∈
      references (assemble vocabulary style intent).sql) :
    catalog.HasColumn vocabulary.schema.fact.table column := by
  obtain ⟨before, after, parted, resolves⟩ := covers
  rw [parted, undated, List.mem_append, List.mem_append] at refers
  apply Catalog.hasColumn_of_resolves distinct
  apply resolves
  rcases refers with (early | dated) | late
  · exact List.mem_append_left _ early
  · rw [Statement.reading_references.nil] at dated
    exact absurd dated List.not_mem_nil
  · exact List.mem_append_right _ (List.mem_cons_of_mem _ late)

/-- With no more than the columns of the dimension table, some statement is not covered
unless those are the columns that count. -/
theorem Vocabulary.WellFormed.exists_uncovered {vocabulary : Vocabulary}
    (wellFormed : vocabulary.WellFormed)
    (shared : vocabulary.schema.fact.table = vocabulary.schema.dimension.table)
    (unlisted : ¬ vocabulary.FactWithinDimension) (style : ParamStyle) :
    ∃ (catalog : Catalog) (intent : Intent), catalog.missing vocabulary.schema = .ok [] ∧
      intent.dateRange = {} ∧ ¬ catalog.Covers vocabulary style intent := by
  simp only [FactWithinDimension, not_forall] at unlisted
  obtain ⟨column, member, absent⟩ := unlisted
  obtain ⟨intent, undated, refers⟩ := wellFormed.exists_reference member style
  refine ⟨.single vocabulary.schema.dimension.table vocabulary.schema.dimension.columns, intent,
    Catalog.missing_eq_nil.mpr ⟨fun distinct => absurd shared distinct, ?_⟩, undated, ?_⟩
  · exact fun listed found => Catalog.hasColumn_single.mpr ⟨listed, found, rfl⟩
  · intro covers
    have has := covers.hasColumn wellFormed.shortNames (by rw [undated]) refers
    rw [shared, Catalog.hasColumn_single] at has
    exact absent has

/-- A catalog that satisfies the contract covers every statement if the tables go by
different names, or if the dimension table lists what is referred to in the fact table.
Otherwise there are satisfying catalogs that do not cover every statement. -/
theorem satisfied_catalog_covers {raw : Value} {vocabulary : Vocabulary}
    (accepted : Vocabulary.read raw = .ok vocabulary) :
    let contract := vocabulary.schema
    let dateColumn := contract.fact.column contract.fact.metricDate
    let listed := contract.fact.table = contract.dimension.table → vocabulary.FactWithinDimension
    vocabulary.dateRanges.map (·.predicate) =
        (Vocabulary.givenPredicates raw).map (Text.replace Vocabulary.dateMark dateColumn) ∧
      (listed → ∀ (catalog : Catalog) (style : ParamStyle) (intent : Intent),
        catalog.missing contract = .ok [] → catalog.Covers vocabulary style intent) ∧
      (¬ listed → ∀ style : ParamStyle, ∃ (catalog : Catalog) (intent : Intent),
        catalog.missing contract = .ok [] ∧ intent.dateRange = {} ∧
          ¬ catalog.Covers vocabulary style intent) := by
  intro contract dateColumn listed
  have wellFormed := Vocabulary.wellFormed_of_read accepted
  refine ⟨Vocabulary.predicates_of_read accepted, ?_, ?_⟩
  · intro within catalog style intent satisfied
    exact wellFormed.covers_of_missing satisfied within style intent
  · intro unlisted style
    obtain ⟨shared, notWithin⟩ := Classical.not_imp.mp unlisted
    exact wellFormed.exists_uncovered shared notWithin style

/-- A catalog of the two tables of `Vocabulary.sampleVocabulary`. -/
def Catalog.sample : Catalog where
  tables :=
    (Catalog.single "readings" ["site_id", "label", "amount", "taken_on", "change"]).tables ++
      (Catalog.single "sites" ["id", "title", "code"]).tables

theorem sample_catalog_covers :
    Catalog.sample.missing Vocabulary.sampleVocabulary.schema = .ok [] ∧
      Catalog.sample.Covers Vocabulary.sampleVocabulary .dollar
        { department := some .hr, metrics := ["rain"] } := by
  have satisfied : Catalog.sample.missing Vocabulary.sampleVocabulary.schema = .ok [] := by
    with_unfolding_all rfl
  obtain ⟨-, covers, -⟩ := satisfied_catalog_covers Vocabulary.read_sampleSource
  exact ⟨satisfied, covers (fun shared => absurd shared (by decide)) _ _ _ satisfied⟩

/-- The source of a vocabulary that joins a table with itself. -/
def Vocabulary.selfJoinSource : Value := .record
  [("schema", .record
    [("fact", .record
       [("table", .text "metrics"), ("alias", .text "m"),
        ("department_key", .text "department_id"), ("metric_name", .text "metric_name"),
        ("metric_value", .text "metric_value"), ("metric_date", .text "metric_date"),
        ("change_percent", .text "monthly_change_percent")]),
     ("dimension", .record
       [("table", .text "metrics"), ("alias", .text "d"), ("key", .text "id"),
        ("name", .text "name"), ("code", .text "code")])])]

/-- The vocabulary that `selfJoinSource` describes. -/
def Vocabulary.selfJoin : Vocabulary where
  version := .int 1
  schema :=
    { fact :=
        { table := "metrics"
          shortName := "m"
          departmentKey := "department_id"
          metricName := "metric_name"
          metricValue := "metric_value"
          metricDate := "metric_date"
          changePercent := "monthly_change_percent" }
      dimension :=
        { table := "metrics", shortName := "d", key := "id", name := "name"
          code := "code" } }
  departments := []
  dateRanges := []
  aggregations := []
  metrics := []
  comparisons := []
  limits := { patterns := [], defaultRanked := 10, maximum := 1000 }

/-- A self-joined table passes without the columns of the fact table. -/
theorem self_join_uncovered :
    Vocabulary.read Vocabulary.selfJoinSource = .ok Vocabulary.selfJoin ∧
      (Catalog.single "metrics" ["id", "name", "code"]).missing Vocabulary.selfJoin.schema =
        .ok [] ∧
      { shortName := "m", column := "department_id" } ∈
        references (assemble Vocabulary.selfJoin .dollar {}).sql ∧
      ¬ (Catalog.single "metrics" ["id", "name", "code"]).HasColumn "metrics" "department_id" ∧
      ¬ (Catalog.single "metrics" ["id", "name", "code"]).Covers Vocabulary.selfJoin .dollar
        {} := by
  have accepted : Vocabulary.read Vocabulary.selfJoinSource = .ok Vocabulary.selfJoin := by
    with_unfolding_all rfl
  have satisfied : (Catalog.single "metrics" ["id", "name", "code"]).missing
      Vocabulary.selfJoin.schema = .ok [] := by
    with_unfolding_all rfl
  have refers : ({ shortName := "m", column := "department_id" } : Reference) ∈
      references (assemble Vocabulary.selfJoin .dollar {}).sql := by
    decide +kernel
  have absent : ¬ (Catalog.single "metrics" ["id", "name", "code"]).HasColumn "metrics"
      "department_id" := by
    rw [Catalog.hasColumn_single]
    decide +kernel
  exact ⟨accepted, satisfied, refers, absent,
    fun covers => absent (covers.hasColumn (by decide) rfl refers)⟩

end Inquiry
