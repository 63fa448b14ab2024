import Inquiry.Proofs.Decimal.Integer
import Inquiry.Proofs.Statement.Piecewise
import Inquiry.Proofs.Vocabulary.WellFormed
import Inquiry.Extraction
import Inquiry.Statement.Assembly

/-!
# Names in statements

Outside its conditions, the statement for an intent writes plain words, and
columns under the short names of their tables.  Which columns these are depends
on the vocabulary alone, and not on the intent.
-/

namespace Inquiry

/-- A letter, digit or underscore of ASCII. -/
def Statement.isNamePart (c : Char) : Bool :=
  c.isAlphanum || c == '_'

open Statement (isNamePart)

/-! ## Conditions -/

namespace Condition

/-- The columns that a condition compares with bound values. -/
def columns : Condition → List Text
  | equals column _ => [column]
  | given _ _ => []
  | among column _ => [column]

/-- The text that a condition is given as. -/
def givenText : Condition → Text
  | given predicate _ => predicate
  | _ => []

theorem exists_of_mem_renderAll {style : ParamStyle} {bound : Nat}
    {conditions : List Condition} {text : Text}
    (member : text ∈ renderAll style bound conditions) :
    ∃ condition ∈ conditions, ∃ before, text = condition.render style before := by
  induction conditions generalizing bound with
  | nil => simp [renderAll] at member
  | cons condition rest ih =>
      rcases List.mem_cons.mp member with rfl | later
      · exact ⟨condition, by simp, bound, rfl⟩
      · obtain ⟨other, found, before, written⟩ := ih later
        exact ⟨other, by simp [found], before, written⟩

end Condition

/-- A condition of an intent is on its department, its date window or its metrics. -/
theorem Intent.mem_conditions {contract : SchemaContract} {intent : Intent}
    {condition : Condition} (member : condition ∈ intent.conditions contract) :
    (∃ department : Department, condition =
        .equals (contract.dimension.column contract.dimension.code) (Tagged.tag department)) ∨
      (intent.dateRange.predicate ≠ [] ∧
        condition = .given intent.dateRange.predicate intent.dateRange.boundParams) ∨
      condition = .among (contract.fact.column contract.fact.metricName) intent.metrics := by
  simp only [Intent.conditions, List.mem_append, Option.mem_toList, Option.map_eq_some_iff]
    at member
  rcases member with (⟨department, -, rfl⟩ | date) | metrics
  · exact .inl ⟨department, rfl⟩
  · split at date
    · simp at date
    next present => exact .inr (.inl ⟨by simpa using present, List.mem_singleton.mp date⟩)
  · split at metrics
    · simp at metrics
    · exact .inr (.inr (List.mem_singleton.mp metrics))

/-! ## Names outside the conditions -/

namespace Vocabulary

/-- The date window filters nothing, or it is the window of a rule. -/
def Offers (vocabulary : Vocabulary) (range : DateRange) : Prop :=
  range.predicate = [] ∨ ∃ rule ∈ vocabulary.dateRanges, range = rule.dateRange

/-- The columns of the fact table that statements write.  The change is among them
if a way of summarising computes with it. -/
def factColumns (vocabulary : Vocabulary) : List Text :=
  let fact := vocabulary.schema.fact
  [fact.departmentKey, fact.metricName, fact.metricValue, fact.metricDate] ++
    if vocabulary.aggregations.any (·.column == fact.column fact.changePercent) then
      [fact.changePercent]
    else []

theorem factColumns_subset {vocabulary : Vocabulary} :
    vocabulary.factColumns ⊆ vocabulary.schema.fact.columns := by
  intro column member
  simp only [factColumns, List.mem_append] at member
  rcases member with always | change
  · simp only [FactTable.columns, List.mem_cons, List.not_mem_nil, or_false] at always ⊢
    tauto
  · split at change
    · simp [FactTable.columns, List.mem_singleton.mp change]
    · simp at change

/-- A text that statements write as one name. -/
inductive Written (vocabulary : Vocabulary) : Text → Prop where
  | plain {name : Text} (parts : ∀ c ∈ name, isNamePart c = true) :
      Written vocabulary name
  | fact {column : Text} (member : column ∈ vocabulary.factColumns) :
      Written vocabulary (vocabulary.schema.fact.column column)
  | dimension {column : Text} (member : column ∈ vocabulary.schema.dimension.columns) :
      Written vocabulary (vocabulary.schema.dimension.column column)

namespace Written

variable {vocabulary : Vocabulary}

theorem departmentKey : Written vocabulary
    (vocabulary.schema.fact.column vocabulary.schema.fact.departmentKey) :=
  .fact (by simp [factColumns])

theorem metricName : Written vocabulary
    (vocabulary.schema.fact.column vocabulary.schema.fact.metricName) :=
  .fact (by simp [factColumns])

theorem metricValue : Written vocabulary
    (vocabulary.schema.fact.column vocabulary.schema.fact.metricValue) :=
  .fact (by simp [factColumns])

theorem metricDate : Written vocabulary
    (vocabulary.schema.fact.column vocabulary.schema.fact.metricDate) :=
  .fact (by simp [factColumns])

theorem dimensionKey : Written vocabulary
    (vocabulary.schema.dimension.column vocabulary.schema.dimension.key) :=
  .dimension (by simp [DimensionTable.columns])

theorem dimensionName : Written vocabulary
    (vocabulary.schema.dimension.column vocabulary.schema.dimension.name) :=
  .dimension (by simp [DimensionTable.columns])

theorem dimensionCode : Written vocabulary
    (vocabulary.schema.dimension.column vocabulary.schema.dimension.code) :=
  .dimension (by simp [DimensionTable.columns])

end Written

theorem parts_of_isIdentifier {name : Text} (identifier : isIdentifier name = true) :
    ∀ c ∈ name, isNamePart c = true := by
  cases name with
  | nil => simp
  | cons first rest =>
      simp only [isIdentifier, Bool.and_eq_true, List.all_eq_true] at identifier
      obtain ⟨begins, continues⟩ := identifier
      intro c member
      rcases List.mem_cons.mp member with rfl | later
      · rcases Bool.or_eq_true_iff.mp begins with letter | underscore
        · simp [isNamePart, Char.isAlphanum, letter]
        · simp [isNamePart, underscore]
      · exact continues c later

theorem ascii_of_isIdentifier {name : Text} (identifier : isIdentifier name = true) :
    ∀ c ∈ name, c.toNat < 128 := by
  intro c member
  rcases Bool.or_eq_true_iff.mp (parts_of_isIdentifier identifier c member) with part | underscore
  · exact Text.ascii_of_isAlphanum part
  · rw [beq_iff_eq.mp underscore]
    decide

theorem parts_of_ofNat (n : Nat) : ∀ c ∈ Decimal.ofNat n, isNamePart c = true := by
  intro c member
  simp [isNamePart, Char.isAlphanum, Decimal.isDigit_of_mem_ofNat member]

theorem parts_of_function (function : AggregateFunction) :
    ∀ c ∈ Tagged.tag function, isNamePart c = true := by
  cases function <;> exact List.all_eq_true.mp (by decide)

theorem parts_of_direction (direction : SortDirection) :
    ∀ c ∈ Tagged.tag direction, isNamePart c = true := by
  cases direction <;> exact List.all_eq_true.mp (by decide)

variable {vocabulary : Vocabulary}

theorem written_conditionColumn {intent : Intent} {condition : Condition}
    (member : condition ∈ intent.conditions vocabulary.schema) {column : Text}
    (named : column ∈ condition.columns) : Written vocabulary column := by
  rcases Intent.mem_conditions member with ⟨department, rfl⟩ | ⟨-, rfl⟩ | rfl
  · rw [List.mem_singleton.mp named]
    exact .dimensionCode
  · exact absurd named List.not_mem_nil
  · rw [List.mem_singleton.mp named]
    exact .metricName

namespace WellFormed

theorem isIdentifier_of_table (wellFormed : vocabulary.WellFormed) :
    ∀ name ∈ vocabulary.schema.tables, isIdentifier name = true := by
  simp only [SchemaContract.tables, List.forall_mem_cons]
  exact ⟨wellFormed.factNames _ (by simp [FactTable.names]),
    wellFormed.dimensionNames _ (by simp [DimensionTable.names]), by simp⟩

theorem isIdentifier_of_required (wellFormed : vocabulary.WellFormed) :
    ∀ requirement ∈ vocabulary.schema.requiredColumns,
      ∀ name ∈ requirement.1 :: requirement.2, isIdentifier name = true := by
  have fact : ∀ name ∈ vocabulary.schema.fact.table :: vocabulary.schema.fact.columns,
      isIdentifier name = true := by
    intro name listed
    apply wellFormed.factNames
    rcases List.mem_cons.mp listed with rfl | column <;> simp [FactTable.names, *]
  have dimension : ∀ name ∈ vocabulary.schema.dimension.table ::
      vocabulary.schema.dimension.columns, isIdentifier name = true := by
    intro name listed
    apply wellFormed.dimensionNames
    rcases List.mem_cons.mp listed with rfl | column <;> simp [DimensionTable.names, *]
  rw [SchemaContract.requiredColumns]
  split
  next same =>
    rw [List.forall_mem_singleton, same]
    exact dimension
  next =>
    simp only [List.forall_mem_cons] at fact dimension ⊢
    exact ⟨fact, dimension, by simp⟩

theorem written_factNames (wellFormed : vocabulary.WellFormed) :
    ∀ name ∈ vocabulary.schema.fact.names, Written vocabulary name :=
  fun name member => .plain (parts_of_isIdentifier (wellFormed.factNames name member))

theorem written_dimensionNames (wellFormed : vocabulary.WellFormed) :
    ∀ name ∈ vocabulary.schema.dimension.names, Written vocabulary name :=
  fun name member => .plain (parts_of_isIdentifier (wellFormed.dimensionNames name member))

theorem written_ruleColumn (wellFormed : vocabulary.WellFormed) {rule : AggregationRule}
    (member : rule ∈ vocabulary.aggregations) : Written vocabulary rule.column := by
  rcases wellFormed.aggregationColumn rule member with value | change
  · rw [value]
    exact .metricValue
  · have used : vocabulary.aggregations.any
        (·.column == vocabulary.schema.fact.column vocabulary.schema.fact.changePercent) =
          true :=
      List.any_eq_true.mpr ⟨rule, member, by simp [change]⟩
    rw [change]
    exact .fact (by simp [factColumns, used])

theorem written_output (wellFormed : vocabulary.WellFormed) {rule : AggregationRule}
    (member : rule ∈ vocabulary.aggregations) : Written vocabulary rule.output :=
  .plain (parts_of_isIdentifier (wellFormed.aggregationOutput rule member))

theorem written_selectItems (wellFormed : vocabulary.WellFormed)
    (rule : Option AggregationRule)
    (known : ∀ found, rule = some found → found ∈ vocabulary.aggregations) (filtered : Bool) :
    ∀ name ∈ (Intent.selectItems vocabulary.schema rule filtered).flatMap (·.names),
      Written vocabulary name := by
  have department : Written vocabulary "department" :=
    .plain (List.all_eq_true.mp (by decide))
  cases rule with
  | none =>
      simp only [Intent.selectItems, SelectItem.names, Expression.names, List.flatMap_cons,
        List.flatMap_nil, Option.toList_some, Option.toList_none, List.append_nil,
        List.cons_append, List.nil_append, List.forall_mem_cons]
      exact ⟨.dimensionName, department, .metricName, .metricValue, .metricDate, by simp⟩
  | some rule =>
      have function : Written vocabulary (Tagged.tag rule.function) :=
        .plain (parts_of_function rule.function)
      have column := wellFormed.written_ruleColumn (known rule rfl)
      have output := wellFormed.written_output (known rule rfl)
      cases filtered with
      | true =>
          have minimum : Written vocabulary "MIN" :=
            .plain (List.all_eq_true.mp (by decide))
          simp only [Intent.selectItems, SelectItem.names, Expression.names, if_true,
            List.flatMap_cons, List.flatMap_nil, Option.toList_some, Option.toList_none,
            List.append_nil, List.cons_append, List.nil_append, List.forall_mem_cons]
          exact ⟨minimum, .dimensionName, department, .metricName, function, column, output,
            by simp⟩
      | false =>
          simp only [Intent.selectItems, SelectItem.names, Expression.names,
            Bool.false_eq_true, if_false, List.flatMap_cons, List.flatMap_nil,
            Option.toList_some, Option.toList_none, List.append_nil, List.cons_append,
            List.nil_append, List.forall_mem_cons]
          exact ⟨.dimensionName, department, .metricName, function, column, output, by simp⟩

theorem written_groupKeys (vocabulary : Vocabulary) (rule : Option AggregationRule)
    (filtered : Bool) :
    ∀ name ∈ Intent.groupKeys vocabulary.schema rule filtered, Written vocabulary name := by
  cases rule with
  | none => simp [Intent.groupKeys]
  | some rule =>
      cases filtered with
      | true =>
          simp only [Intent.groupKeys, List.forall_mem_singleton]
          exact .metricName
      | false =>
          simp only [Intent.groupKeys, List.forall_mem_cons]
          exact ⟨.dimensionName, .metricName, by simp⟩

theorem written_orderKey (wellFormed : vocabulary.WellFormed)
    (rule : Option AggregationRule)
    (known : ∀ found, rule = some found → found ∈ vocabulary.aggregations)
    (comparison : Comparison) :
    ∀ name ∈ (Intent.orderKey vocabulary.schema rule comparison).names,
      Written vocabulary name := by
  have maximum : Written vocabulary "MAX" := .plain (List.all_eq_true.mp (by decide))
  obtain ⟨kind, _⟩ := comparison
  cases rule with
  | none =>
      cases kind with
      | none =>
          simp only [Intent.orderKey, Expression.names, List.forall_mem_singleton]
          exact .metricDate
      | top | bottom =>
          simp only [Intent.orderKey, Expression.names, List.forall_mem_singleton]
          exact .metricValue
  | some rule =>
      have output := wellFormed.written_output (known rule rfl)
      cases kind with
      | none =>
          simp only [Intent.orderKey, Expression.names, List.forall_mem_cons]
          exact ⟨maximum, .metricDate, by simp⟩
      | top | bottom =>
          simp only [Intent.orderKey, Expression.names, List.forall_mem_singleton]
          exact output

/-- Whatever the intent, its statement writes names by rule before its conditions. -/
theorem written_namesBefore (wellFormed : vocabulary.WellFormed) (intent : Intent) :
    ∀ name ∈ (intent.statement vocabulary).namesBefore, Written vocabulary name := by
  have items := wellFormed.written_selectItems
    (vocabulary.aggregation? intent.aggregation.kind) (fun _ => aggregation_mem)
    intent.department.isSome
  have factNames := wellFormed.written_factNames
  have dimensionNames := wellFormed.written_dimensionNames
  simp only [Statement.namesBefore, Intent.statement, List.forall_mem_append,
    List.forall_mem_cons]
  exact ⟨items, factNames _ (by simp [FactTable.names]),
    factNames _ (by simp [FactTable.names]), dimensionNames _ (by simp [DimensionTable.names]),
    dimensionNames _ (by simp [DimensionTable.names]), .departmentKey, .dimensionKey,
    by simp⟩

/-- Whatever the intent, its statement writes names by rule behind its conditions. -/
theorem written_namesAfter (wellFormed : vocabulary.WellFormed) (intent : Intent) :
    ∀ name ∈ (intent.statement vocabulary).namesAfter, Written vocabulary name := by
  have groups := written_groupKeys vocabulary
    (vocabulary.aggregation? intent.aggregation.kind) intent.department.isSome
  have order := wellFormed.written_orderKey
    (vocabulary.aggregation? intent.aggregation.kind) (fun _ => aggregation_mem)
    intent.comparison
  have direction : Written vocabulary (Tagged.tag (Intent.direction intent.comparison)) :=
    .plain (parts_of_direction _)
  simp only [Statement.namesAfter, List.forall_mem_append]
  exact ⟨⟨groups, order⟩, by simpa [Intent.statement] using direction⟩

/-- Plain names and columns hold name parts and the point alone. -/
theorem parts_of_written (wellFormed : vocabulary.WellFormed) {name : Text}
    (written : Written vocabulary name) : ∀ c ∈ name, (isNamePart c || c == '.') = true := by
  have qualifiedParts : ∀ {shortName column : Text}, isIdentifier shortName = true →
      isIdentifier column = true →
      ∀ c ∈ qualified shortName column, (isNamePart c || c == '.') = true := by
    intro shortName column shortNameRead columnRead c member
    simp only [qualified, List.mem_append] at member
    rcases member with (before | point) | after
    · simp [parts_of_isIdentifier shortNameRead c before]
    · have here : c = '.' := by simpa using point
      simp [here]
    · simp [parts_of_isIdentifier columnRead c after]
  cases written with
  | plain parts =>
      intro c member
      simp [parts c member]
  | @fact column member =>
      have listed : column ∈ vocabulary.schema.fact.columns := factColumns_subset member
      exact qualifiedParts (wellFormed.factNames _ (by simp [FactTable.names]))
        (wellFormed.factNames _ (by simp [FactTable.names, listed]))
  | @dimension column listed =>
      exact qualifiedParts (wellFormed.dimensionNames _ (by simp [DimensionTable.names]))
        (wellFormed.dimensionNames _ (by simp [DimensionTable.names, listed]))

theorem lineFeed_not_mem (wellFormed : vocabulary.WellFormed) {name : Text}
    (written : Written vocabulary name) : '\n' ∉ name := by
  intro member
  have part := wellFormed.parts_of_written written _ member
  exact absurd part (by decide)

/-- A reading that finds nothing in names finds in a statement what it finds in the
conditions. -/
theorem read_sql (wellFormed : vocabulary.WellFormed) {β : Type} {read : Text → List β}
    (reading : Statement.Reading read)
    (silent : ∀ name, Written vocabulary name → read name = [])
    (keyword : read "LIMIT " = []) (style : ParamStyle) (intent : Intent) :
    read (assemble vocabulary style intent).sql =
      (Condition.renderAll style 0 (intent.conditions vocabulary.schema)).flatMap read := by
  have before : (intent.statement vocabulary).namesBefore.flatMap read = [] :=
    List.flatMap_eq_nil_iff.mpr fun name member =>
      silent name (wellFormed.written_namesBefore intent name member)
  have after : (intent.statement vocabulary).namesAfter.flatMap read = [] :=
    List.flatMap_eq_nil_iff.mpr fun name member =>
      silent name (wellFormed.written_namesAfter intent name member)
  have limits := reading.read_limit keyword
    (fun n => silent _ (.plain (parts_of_ofNat n))) (intent.statement vocabulary).limit
  rw [assemble, reading.read_render, before, after, limits, List.nil_append,
    List.append_nil, List.append_nil]
  rfl

end WellFormed

end Vocabulary

end Inquiry
