import Inquiry.Proofs.Statement.Names
import Inquiry.Proofs.Text.Basic

/-!
# References in statements

A reference is a column under the short name of its table, with a point between them.
Besides those of its date condition, a statement writes references to columns of the
contract alone: the columns of the dimension table, and those columns of the fact table
that the vocabulary has a use for.
-/

namespace Inquiry

open Statement (isGap isNamePart)

/-- A column as statements name it. -/
structure Reference where
  shortName : Text
  column : Text
  deriving Repr, DecidableEq

namespace Statement

/-- A character of a name, or the point between two names. -/
def isReferencePart (c : Char) : Bool :=
  isNamePart c || c == '.'

/-- The references that stand in a text, in order. -/
def references (text : Text) : List Reference :=
  (Text.runs isReferencePart text).filterMap fun run =>
    (Text.cut? '.' run).map fun (shortName, column) => { shortName, column }

theorem reading_references : Reading references where
  nil := by simp [references]
  cut left gap right member := by
    have outside : ∀ gap, isGap gap = true → isReferencePart gap = false :=
      outside_of_gaps (by decide)
    simp only [references, Text.runs_append_cons (outside gap member), List.filterMap_append]
  silent := by decide

theorem references_plain {name : Text} (parts : ∀ c ∈ name, isNamePart c = true) :
    references name = [] := by
  by_cases empty : name = []
  · rw [empty, reading_references.nil]
  · have inside : ∀ c ∈ name, isReferencePart c = true := by
      intro c member
      simp [isReferencePart, parts c member]
    have absent : '.' ∉ name := by
      intro member
      exact absurd (parts '.' member) (by decide)
    simp [references, Text.runs_eq_singleton empty inside, Text.cut?_of_not_mem absent]

theorem references_qualified {shortName column : Text}
    (shortNameParts : ∀ c ∈ shortName, isNamePart c = true)
    (columnParts : ∀ c ∈ column, isNamePart c = true) :
    references (qualified shortName column) = [{ shortName, column }] := by
  have written : qualified shortName column = shortName ++ '.' :: column := by
    simp [qualified]
  have inside : ∀ c ∈ shortName ++ '.' :: column, isReferencePart c = true := by
    intro c member
    rcases List.mem_append.mp member with before | after
    · simp [isReferencePart, shortNameParts c before]
    · rcases List.mem_cons.mp after with rfl | after
      · rfl
      · simp [isReferencePart, columnParts c after]
  have absent : '.' ∉ shortName := by
    intro member
    exact absurd (shortNameParts '.' member) (by decide)
  rw [written, references, Text.runs_eq_singleton (by simp) inside]
  simp [Text.cut?_append absent]

theorem references_placeholder (style : ParamStyle) (position : Nat) :
    references (style.placeholder position) = [] := by
  cases style with
  | dollar =>
      have digits := references_plain (Vocabulary.parts_of_ofNat position)
      have outside : isReferencePart '$' = false := by decide
      simpa [references, ParamStyle.placeholder, Text.runs_cons outside] using digits
  | qmark =>
      show references "?" = []
      decide

end Statement

open Statement (references)

namespace Condition

/-- The text of a condition without what stands for its values. -/
def subject : Condition → Text
  | equals column _ => column
  | given predicate _ => predicate
  | among column _ => column

theorem references_render (style : ParamStyle) (bound : Nat) (condition : Condition) :
    references (condition.render style bound) = references condition.subject := by
  have reading := Statement.reading_references
  cases condition with
  | equals column value =>
      rw [reading.read_equals, Statement.references_placeholder, List.append_nil, subject]
  | given predicate values => rfl
  | among column values =>
      have marks : (style.placeholders bound values.length).flatMap references = [] := by
        simp [ParamStyle.placeholders, Statement.references_placeholder]
      rw [reading.read_among, marks, List.append_nil, subject]

theorem references_renderAll (style : ParamStyle) (bound : Nat) (conditions : List Condition) :
    (renderAll style bound conditions).flatMap references =
      conditions.flatMap fun condition => references condition.subject := by
  induction conditions generalizing bound with
  | nil => rfl
  | cons condition rest ih =>
      rw [renderAll, List.flatMap_cons, List.flatMap_cons, references_render, ih]

end Condition

namespace Intent

/-- The columns that the conditions before the date condition compare. -/
def namesBeforeDate (contract : SchemaContract) (intent : Intent) : List Text :=
  if intent.department.isSome then [contract.dimension.column contract.dimension.code] else []

/-- The columns that the conditions after the date condition compare. -/
def namesAfterDate (contract : SchemaContract) (intent : Intent) : List Text :=
  if intent.metrics.isEmpty then [] else [contract.fact.column contract.fact.metricName]

theorem references_conditions (contract : SchemaContract) (style : ParamStyle)
    (intent : Intent) :
    (Condition.renderAll style 0 (intent.conditions contract)).flatMap references =
      (intent.namesBeforeDate contract).flatMap references ++
        references intent.dateRange.predicate ++
        (intent.namesAfterDate contract).flatMap references := by
  have department : (intent.department.map fun department =>
        Condition.equals (contract.dimension.column contract.dimension.code)
          (Tagged.tag department)).toList.flatMap
        (fun condition => references condition.subject) =
      (intent.namesBeforeDate contract).flatMap references := by
    rw [namesBeforeDate]
    cases intent.department <;> rfl
  rw [Condition.references_renderAll, conditions, List.flatMap_append, List.flatMap_append,
    department]
  congr 1
  · congr 1
    split
    next empty => rw [List.isEmpty_iff.mp empty]; rfl
    next => exact List.append_nil _
  · rw [namesAfterDate]
    split <;> rfl

end Intent

namespace Vocabulary

/-- A reference to a column that statements write under the vocabulary. -/
inductive Refers (vocabulary : Vocabulary) : Reference → Prop where
  | fact {column : Text} (member : column ∈ vocabulary.factColumns) :
      Refers vocabulary { shortName := vocabulary.schema.fact.shortName, column }
  | dimension {column : Text} (member : column ∈ vocabulary.schema.dimension.columns) :
      Refers vocabulary { shortName := vocabulary.schema.dimension.shortName, column }

namespace WellFormed

variable {vocabulary : Vocabulary}

theorem references_fact (wellFormed : vocabulary.WellFormed) {column : Text}
    (member : column ∈ vocabulary.factColumns) :
    references (vocabulary.schema.fact.column column) =
      [{ shortName := vocabulary.schema.fact.shortName, column }] := by
  have listed : column ∈ vocabulary.schema.fact.columns := factColumns_subset member
  exact Statement.references_qualified
    (parts_of_isIdentifier (wellFormed.factNames _ (by simp [FactTable.names])))
    (parts_of_isIdentifier (wellFormed.factNames _ (by simp [FactTable.names, listed])))

theorem references_dimension (wellFormed : vocabulary.WellFormed) {column : Text}
    (listed : column ∈ vocabulary.schema.dimension.columns) :
    references (vocabulary.schema.dimension.column column) =
      [{ shortName := vocabulary.schema.dimension.shortName, column }] :=
  Statement.references_qualified
    (parts_of_isIdentifier (wellFormed.dimensionNames _ (by simp [DimensionTable.names])))
    (parts_of_isIdentifier (wellFormed.dimensionNames _ (by simp [DimensionTable.names, listed])))

theorem refers_of_written (wellFormed : vocabulary.WellFormed) {name : Text}
    (written : Written vocabulary name) :
    ∀ reference ∈ references name, vocabulary.Refers reference := by
  cases written with
  | plain parts => simp [Statement.references_plain parts]
  | fact member =>
      rw [wellFormed.references_fact member, List.forall_mem_singleton]
      exact .fact member
  | dimension member =>
      rw [wellFormed.references_dimension member, List.forall_mem_singleton]
      exact .dimension member

theorem refers_of_names (wellFormed : vocabulary.WellFormed) {names : List Text}
    (written : ∀ name ∈ names, Written vocabulary name) :
    ∀ reference ∈ names.flatMap references, vocabulary.Refers reference := by
  intro reference member
  obtain ⟨name, listed, found⟩ := List.mem_flatMap.mp member
  exact wellFormed.refers_of_written (written name listed) reference found

/-- Apart from its date condition, a statement refers to columns by rule. -/
theorem references_sql (wellFormed : vocabulary.WellFormed) (style : ParamStyle)
    (intent : Intent) :
    ∃ before after,
      references (assemble vocabulary style intent).sql =
        before ++ references intent.dateRange.predicate ++ after ∧
      ∀ reference ∈ before ++ after, vocabulary.Refers reference := by
  have reading := Statement.reading_references
  have limits := reading.read_limit (by decide)
    (fun n => Statement.references_plain (parts_of_ofNat n)) (intent.statement vocabulary).limit
  have conditions : (Condition.renderAll style 0
        (intent.statement vocabulary).conditions).flatMap references = _ :=
    intent.references_conditions vocabulary.schema style
  have departmentWritten : ∀ name ∈ intent.namesBeforeDate vocabulary.schema,
      Written vocabulary name := by
    rw [Intent.namesBeforeDate]
    split
    · rw [List.forall_mem_singleton]
      exact .dimensionCode
    · simp
  have metricWritten : ∀ name ∈ intent.namesAfterDate vocabulary.schema,
      Written vocabulary name := by
    rw [Intent.namesAfterDate]
    split
    · simp
    · rw [List.forall_mem_singleton]
      exact .metricName
  refine ⟨((intent.statement vocabulary).namesBefore ++
      intent.namesBeforeDate vocabulary.schema).flatMap references,
    (intent.namesAfterDate vocabulary.schema ++
      (intent.statement vocabulary).namesAfter).flatMap references, ?_, ?_⟩
  · rw [assemble, reading.read_render, limits, conditions]
    simp only [List.flatMap_append, List.append_assoc, List.append_nil]
  · rw [← List.flatMap_append]
    apply wellFormed.refers_of_names
    simp only [List.forall_mem_append]
    exact ⟨⟨wellFormed.written_namesBefore intent, departmentWritten⟩, metricWritten,
      wellFormed.written_namesAfter intent⟩

end WellFormed

end Vocabulary

end Inquiry
