import Inquiry.Compiler
import Inquiry.Proofs.Extraction.Limit
import Inquiry.Proofs.Request
import Inquiry.Proofs.Text.Case
import Inquiry.Proofs.Validation.Basic

/-!
# Extracted intents

Whatever a question says, the intent that is extracted from it is put together
from the vocabulary: its department, its date window, its way of summarising, its
metrics and its ranking are all taken from rules.  Its row limit is bounded by
them.
-/

namespace Inquiry

/-- An intent all of whose parts are taken from a vocabulary. -/
structure Intent.Drawn (vocabulary : Vocabulary) (intent : Intent) : Prop where
  department : ∀ code, intent.department = some code →
    Tagged.tag code ∈ vocabulary.departmentCodes
  dateRange : intent.dateRange = {} ∨ intent.dateRange = { kind := .custom } ∨
    ∃ rule ∈ vocabulary.dateRanges, intent.dateRange = rule.dateRange
  metrics : ∀ name ∈ intent.metrics, ∃ rule ∈ vocabulary.metrics, .text name ∈ rule.names
  comparison : intent.comparison = {} ∨ ∃ rule ∈ vocabulary.comparisons,
    intent.comparison = { kind := rule.kind, direction := rule.direction }
  aggregation : intent.aggregation = {} ∨ ∃ rule ∈ vocabulary.aggregations,
    intent.aggregation = { kind := rule.kind, sqlFunction := Tagged.tag rule.function }
  limit : intent.limit ≤ vocabulary.limits.maximum ∨
    intent.limit = vocabulary.limits.defaultRanked

/-- The windows of a vocabulary bind no values of their own. -/
theorem boundParams_of_drawn {vocabulary : Vocabulary} {intent : Intent}
    (drawn : intent.Drawn vocabulary) : intent.dateRange.boundParams = [] := by
  rcases drawn.dateRange with range | range | ⟨rule, -, range⟩ <;>
    exact congrArg DateRange.boundParams range

namespace Extraction

variable {vocabulary : Vocabulary}

theorem dateRange_drawn (question : Text) (explicit : Option Text) :
    dateRange vocabulary question explicit = {} ∨
      dateRange vocabulary question explicit = { kind := .custom } ∨
      ∃ rule ∈ vocabulary.dateRanges,
        dateRange vocabulary question explicit = rule.dateRange := by
  have named : ∀ given, namedRange vocabulary given = { kind := .custom } ∨
      ∃ rule ∈ vocabulary.dateRanges, namedRange vocabulary given = rule.dateRange := by
    intro given
    simp only [namedRange]
    cases tagged : taggedRange? vocabulary (Text.tag (Text.lower (Text.strip given))) with
    | some rule => exact .inr ⟨rule, List.mem_of_find?_eq_some tagged, rfl⟩
    | none =>
        cases mentioned : mentionedRange? vocabulary (Text.lower (Text.strip given)) with
        | some rule => exact .inr ⟨rule, List.mem_of_find?_eq_some mentioned, rfl⟩
        | none => exact .inl rfl
  simp only [dateRange]
  split
  next given _ => exact .inr (named given)
  next =>
    split
    next rule found => exact .inr (.inr ⟨rule, List.mem_of_find?_eq_some found, rfl⟩)
    next => exact .inl rfl

theorem comparison_drawn (question : Text) :
    comparison vocabulary question = {} ∨ ∃ rule ∈ vocabulary.comparisons,
      comparison vocabulary question = { kind := rule.kind, direction := rule.direction } := by
  simp only [comparison]
  split
  next rule found => exact .inr ⟨rule, List.mem_of_find?_eq_some found, rfl⟩
  next => exact .inl rfl

theorem aggregation_drawn (question : Text) :
    aggregation vocabulary question = {} ∨ ∃ rule ∈ vocabulary.aggregations,
      aggregation vocabulary question =
        { kind := rule.kind, sqlFunction := Tagged.tag rule.function } := by
  simp only [aggregation]
  split
  next rule found => exact .inr ⟨rule, List.mem_of_find?_eq_some found, rfl⟩
  next => exact .inl rfl

theorem metrics_sublist (vocabulary : Vocabulary) (question : Text) :
    (metrics vocabulary question).Sublist (vocabulary.metrics.flatMap (·.names)) :=
  List.filter_sublist.flatMap _

theorem exists_texts {values : List Value} (all : ∀ value ∈ values, value.text?.isSome = true) :
    ∃ contents : List Text, values = contents.map .text := by
  induction values with
  | nil => exact ⟨[], rfl⟩
  | cons value rest ih =>
      rw [List.forall_mem_cons] at all
      obtain ⟨others, same⟩ := ih all.2
      cases value with
      | text content => exact ⟨content :: others, by rw [same]; rfl⟩
      | _ => cases all.1

/-- An empty text is no override. -/
theorem override_ofOption (content : Option Text) :
    override (.ofOption content) = .ok (content.filter fun given => !given.isEmpty) := by
  cases content with
  | none => rfl
  | some given => cases given <;> rfl

theorem metrics_drawn {question name : Text}
    (member : .text name ∈ metrics vocabulary question) :
    ∃ rule ∈ vocabulary.metrics, .text name ∈ rule.names := by
  obtain ⟨rule, kept, listed⟩ := List.mem_flatMap.mp member
  exact ⟨rule, List.mem_of_mem_filter kept, listed⟩

/-- A department is one of the vocabulary: an explicit one because it was checked, and
another because a rule points to it. -/
theorem department_drawn {question : Text} {given : Value} {explicit : Option Text}
    {code : Text} (checked : Compiler.checkDepartment vocabulary given = .ok ())
    (overridden : override given = .ok explicit)
    (found : department vocabulary question explicit = some code) :
    code ∈ vocabulary.departmentCodes := by
  cases explicit with
  | some name =>
      cases found
      rw [Compiler.checkDepartment, overridden] at checked
      simp only [bind, Except.bind] at checked
      split at checked
      next listed => simpa using listed
      next => cases checked
  | none =>
      obtain ⟨rule, listed, rfl⟩ := Option.map_eq_some_iff.mp found
      exact List.mem_map.mpr ⟨rule, List.mem_of_find?_eq_some listed, rfl⟩

/-- The department of a question is a known one, given or not. -/
theorem exists_department {given : Value} {explicit : Option Text}
    (checked : Compiler.checkDepartment vocabulary given = .ok ())
    (overridden : override given = .ok explicit) (question : Text) :
    ∃ code : Option Department,
      department vocabulary question explicit = code.map Tagged.tag := by
  cases found : department vocabulary question explicit with
  | none => exact ⟨none, rfl⟩
  | some tag =>
      obtain ⟨rule, -, rfl⟩ := List.mem_map.mp (department_drawn checked overridden found)
      exact ⟨some rule.code, rfl⟩

/-- Blanks around a question and the case of its letters make no difference to its metrics. -/
theorem metrics_strip_lower (stripped : ∀ rule ∈ vocabulary.metrics,
    Text.strip rule.keyword = rule.keyword) (question : Text) :
    metrics vocabulary (Text.strip (Text.lower question)) = metrics vocabulary question := by
  simp only [metrics, Text.lower_strip_lower]
  congr 1
  exact List.filter_congr fun rule listed => Text.occurs_strip (stripped rule listed) _

/-- Metrics are found in a question as it was asked. -/
theorem mem_metrics {question : Text} {name : Value} (wellFormed : ∀ rule ∈ vocabulary.metrics,
    Text.strip rule.keyword = rule.keyword) :
    name ∈ metrics vocabulary (Text.strip (Text.lower question)) ↔
      ∃ rule ∈ vocabulary.metrics, Text.occurs rule.keyword (Text.lower question) = true ∧
        name ∈ rule.names := by
  rw [metrics_strip_lower wellFormed]
  simp only [metrics, List.mem_flatMap, List.mem_filter, and_assoc]

end Extraction

namespace Intent

open Extraction

/-- What the readings found, if the department is known and the metrics are texts. -/
theorem ofReadings_eq_ok {department : Option Text} {dateRange : DateRange}
    {aggregation : Aggregation} {metrics : List Value} {comparison : Comparison}
    {limit : Nat} {intent : Intent}
    (success : ofReadings department dateRange aggregation metrics comparison limit =
      .ok intent) :
    intent.department.map Tagged.tag = department ∧
      metrics = intent.metrics.map .text ∧ intent.dateRange = dateRange ∧
      intent.aggregation = aggregation ∧ intent.comparison = comparison ∧
      intent.limit = limit := by
  obtain ⟨make, contents, first, texts, rfl⟩ := Checked.apply_eq_ok.mp success
  obtain ⟨build, code, started, coded, rfl⟩ := Checked.apply_eq_ok.mp first
  cases started
  refine ⟨?_, Validation.textsFrom_eq_ok (Checked.under_eq_ok.mp texts), rfl, rfl, rfl, rfl⟩
  cases department with
  | none =>
      cases coded
      rfl
  | some given =>
      obtain ⟨found, read, rfl⟩ := Checked.map_eq_ok.mp (Checked.under_eq_ok.mp coded)
      exact congrArg some (Validation.tagged_eq_ok read)

/-- The readings of a question that an intent is put together from. -/
structure ReadFrom (vocabulary : Vocabulary) (question : Text)
    (department dateRange : Option Text) (intent : Intent) : Prop where
  department : intent.department.map Tagged.tag =
    Extraction.department vocabulary question department
  dateRange : intent.dateRange = Extraction.dateRange vocabulary question dateRange
  aggregation : intent.aggregation = Extraction.aggregation vocabulary question
  metrics : Extraction.metrics vocabulary question = intent.metrics.map .text
  comparison : intent.comparison = Extraction.comparison vocabulary question
  limit : Extraction.limit vocabulary question = .ok intent.limit

/-- Every intent of a question was read from it under the overrides. -/
theorem exists_readFrom {vocabulary : Vocabulary} {question : Text}
    {department dateRange : Value} {intent : Intent}
    (success : ofQuestion vocabulary question department dateRange = .ok intent) :
    ∃ explicitDepartment explicitRange,
      override department = .ok explicitDepartment ∧ override dateRange = .ok explicitRange ∧
        intent.ReadFrom vocabulary (Text.strip (Text.lower question)) explicitDepartment
          explicitRange := by
  obtain ⟨explicitDepartment, overridden, success⟩ := Outcome.bind_eq_ok.mp success
  obtain ⟨explicitRange, windowGiven, success⟩ := Outcome.bind_eq_ok.mp success
  obtain ⟨limit, limitFound, success⟩ := Outcome.bind_eq_ok.mp success
  obtain ⟨code, names, range, summary, ranking, bound⟩ :=
    ofReadings_eq_ok (Outcome.mapError_eq_ok.mp success)
  exact ⟨explicitDepartment, explicitRange, overridden, windowGiven, code, range, summary, names,
    ranking, bound ▸ limitFound⟩

/-- A department that is known and a window leave no trace in the other readings, nor in the
issues with them. -/
theorem ofReadings_eq_map (department : Option Department) (dateRange : DateRange)
    (aggregation : Aggregation) (metrics : List Value) (comparison : Comparison) (limit : Nat) :
    ofReadings (department.map Tagged.tag) dateRange aggregation metrics comparison limit =
      ((Validation.textsFrom 0 metrics).under (.field "metrics")).map fun metrics =>
        { department, dateRange, aggregation, metrics, comparison, limit } := by
  unfold ofReadings
  cases department with
  | none => cases (Validation.textsFrom 0 metrics).under (.field "metrics") <;> rfl
  | some code =>
      simp only [Option.map_some, Validation.tagged_tag]
      cases (Validation.textsFrom 0 metrics).under (.field "metrics") <;> rfl

/-- What the readings found is put together if the department is known and the metrics are
texts. -/
theorem ofReadings_of_known (department : Option Department) (dateRange : DateRange)
    (aggregation : Aggregation) (metrics : List Text) (comparison : Comparison) (limit : Nat) :
    ofReadings (department.map Tagged.tag) dateRange aggregation (metrics.map .text) comparison
      limit = .ok { department, dateRange, aggregation, metrics, comparison, limit } := by
  rw [ofReadings_eq_map, Validation.textsFrom_map_text]
  rfl

/-- Of a question that is not too long only the metrics may be no texts. -/
theorem exists_readings {vocabulary : Vocabulary} {question : Text}
    (short : question.length ≤ Request.longestQuestion) {department : Value}
    (checked : Compiler.checkDepartment vocabulary department = .ok ())
    (dateRange : Option Text) :
    ∃ (code : Option Department) (window : DateRange) (aggregation : Aggregation)
      (comparison : Comparison) (limit : Nat),
      ofQuestion vocabulary question department (.ofOption dateRange) =
        (ofReadings (code.map Tagged.tag) window aggregation
          (Extraction.metrics vocabulary (Text.strip (Text.lower question))) comparison
          limit).mapError Fault.invalid := by
  have bounded : (Text.lower (Text.strip (Text.lower question))).length ≤
      Decimal.digitLimit := by
    rw [Text.lower_strip_lower]
    calc (Text.strip (Text.lower question)).length
        ≤ (Text.lower question).length := (Text.infix_of_strip _).length_le
      _ ≤ 2 * question.length := Text.length_lower_le question
      _ ≤ 2 * Request.longestQuestion := Nat.mul_le_mul_left 2 short
      _ ≤ Decimal.digitLimit := by decide
  obtain ⟨explicit, overridden, -⟩ := Outcome.bind_eq_ok.mp checked
  obtain ⟨explicitRange, windowGiven⟩ : ∃ given, override (.ofOption dateRange) = .ok given :=
    ⟨_, override_ofOption dateRange⟩
  obtain ⟨limit, limitFound⟩ : ∃ limit,
      Extraction.limit vocabulary (Text.strip (Text.lower question)) = .ok limit :=
    exists_limit bounded
  obtain ⟨code, coded⟩ :=
    exists_department checked overridden (Text.strip (Text.lower question))
  refine ⟨code, Extraction.dateRange vocabulary (Text.strip (Text.lower question)) explicitRange,
    Extraction.aggregation vocabulary (Text.strip (Text.lower question)),
    Extraction.comparison vocabulary (Text.strip (Text.lower question)), limit, ?_⟩
  rw [ofQuestion, overridden, windowGiven, ← coded]
  simp only [bind, Except.bind, limitFound]

/-- An intent is extracted if the metrics are texts. -/
theorem exists_extracted {vocabulary : Vocabulary} {question : Text}
    (short : question.length ≤ Request.longestQuestion) {department : Value}
    (checked : Compiler.checkDepartment vocabulary department = .ok ()) (dateRange : Option Text)
    (texts : ∀ name ∈ Extraction.metrics vocabulary (Text.strip (Text.lower question)),
      name.text?.isSome = true) :
    ∃ intent, ofQuestion vocabulary question department (.ofOption dateRange) = .ok intent := by
  obtain ⟨code, window, aggregation, comparison, limit, read⟩ :=
    exists_readings short checked dateRange
  obtain ⟨names, named⟩ := exists_texts texts
  rw [read, named, ofReadings_of_known]
  exact ⟨_, rfl⟩

/-- The metrics are refused, with issues but without a report, if one of them is no text. -/
theorem exists_issues {vocabulary : Vocabulary} {question : Text}
    (short : question.length ≤ Request.longestQuestion) {department : Value}
    (checked : Compiler.checkDepartment vocabulary department = .ok ()) (dateRange : Option Text)
    {name : Value}
    (named : name ∈ Extraction.metrics vocabulary (Text.strip (Text.lower question)))
    (untyped : name.text?.isSome = false) :
    ∃ issues, ofQuestion vocabulary question department (.ofOption dateRange) =
      .error (.invalid issues) := by
  obtain ⟨code, window, aggregation, comparison, limit, read⟩ :=
    exists_readings short checked dateRange
  rw [read]
  cases outcome : ofReadings (code.map Tagged.tag) window aggregation
      (Extraction.metrics vocabulary (Text.strip (Text.lower question))) comparison limit with
  | error issues => exact ⟨issues, rfl⟩
  | ok intent =>
      rw [(ofReadings_eq_ok outcome).2.1] at named
      obtain ⟨content, -, rfl⟩ := List.mem_map.mp named
      cases untyped

/-- What is known of an intent besides its being drawn: its metrics are those that the
question names, and its limit is a number that was read, or the default one. -/
theorem of_extracted {vocabulary : Vocabulary} {question : Text} {department dateRange : Value}
    {intent : Intent}
    (success : ofQuestion vocabulary question department dateRange = .ok intent) :
    Extraction.metrics vocabulary (Text.strip (Text.lower question)) =
        intent.metrics.map .text ∧
      (intent.limit < 10 ^ Decimal.digitLimit ∨
        intent.limit = vocabulary.limits.defaultRanked) := by
  obtain ⟨explicitDepartment, explicitRange, -, -, source⟩ := exists_readFrom success
  exact ⟨source.metrics, limit_lt source.limit⟩

/-- An intent of a question is drawn from the vocabulary. -/
theorem drawn_of_question {vocabulary : Vocabulary} {question : Text}
    {department dateRange : Value} {intent : Intent}
    (checked : Compiler.checkDepartment vocabulary department = .ok ())
    (success : ofQuestion vocabulary question department dateRange = .ok intent) :
    intent.Drawn vocabulary := by
  obtain ⟨explicitDepartment, explicitRange, overridden, -, source⟩ := exists_readFrom success
  constructor
  case department =>
    intro found same
    apply department_drawn checked overridden
    rw [← source.department, same, Option.map_some]
  case dateRange =>
    rw [source.dateRange]
    exact dateRange_drawn _ _
  case metrics =>
    intro name member
    apply metrics_drawn
    rw [source.metrics]
    exact List.mem_map.mpr ⟨name, member, rfl⟩
  case comparison =>
    rw [source.comparison]
    exact comparison_drawn _
  case aggregation =>
    rw [source.aggregation]
    exact aggregation_drawn _
  case limit => exact limit_drawn source.limit

end Intent

end Inquiry
