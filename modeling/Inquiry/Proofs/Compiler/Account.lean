import Inquiry.Proofs.Compiler.Trail

/-!
# Explanations describe statements

An explanation is derived from the intent, which is gone once a query is compiled.
The same text can be told from what a caller has in hand: the trail, the text, the
parameters and the other fields of the query, and the rules of the vocabulary.
-/

namespace Inquiry

namespace CompiledQuery

variable (vocabulary : Vocabulary) (query : CompiledQuery)

/-- The trail names the mark. -/
def marked (mark : Mark) : Bool :=
  query.matchedPatterns.contains mark.tag

/-- The way of summarising that the trail names. -/
def summary? : Option AggregationRule :=
  vocabulary.aggregations.find? fun rule => query.marked (.aggregation rule.kind)

/-- The date window that the trail names. -/
def window? : Option DateRangeRule :=
  vocabulary.dateRanges.find? fun rule => query.marked (.dateFilter rule.kind)

/-- The ranking that the trail names. -/
def ranking? : Option ComparisonKind :=
  (Tagged.all : List ComparisonKind).find? fun kind => query.marked (.comparison kind)

/-- The parameters besides the department. -/
def metrics : List Text :=
  if query.marked .departmentFilter then query.parameters.tail else query.parameters

/-- The line of the text that orders the rows. -/
def orderLine? : Option Text :=
  (Text.pieces '\n' query.sql).reverse.find? fun line => "ORDER BY ".toList.isPrefixOf line

/-- The rows are ordered from the greatest to the least. -/
def descends : Bool :=
  query.orderLine?.any fun line => " DESC".toList.isSuffixOf line

/-- The text of a label. -/
def spokenLabel (label : Value) : Text :=
  label.text?.getD []

/-- What is computed, as the trail tells. -/
def verbWords : Text :=
  match query.summary? vocabulary with
  | some rule => Explanation.capitalised (spokenLabel rule.label)
  | none => "Retrieve"

/-- The metrics, as the trail and the parameters tell. -/
def metricWords : Text :=
  if query.marked .metricFilter then Text.join ", " query.metrics ++ " metrics"
  else "all metrics"

/-- The department or the grouping by it, as the trail and the parameters tell. -/
def departmentWords : List Text :=
  if query.marked .departmentFilter then
    ["for the " ++ query.parameters.headD [] ++ " department"]
  else if (Tagged.all : List AggregationKind).any fun kind => query.marked (.aggregation kind) then
    ["per department"]
  else []

/-- The date window, as the trail and the date filter tell. -/
def windowWords : List Text :=
  (match query.window? vocabulary with
    | some rule => ["during " ++ spokenLabel rule.label]
    | none => []) ++
  if query.dateFilter = "custom" then
    ["over an unrecognised custom range (no date filter applied)".toList]
  else []

/-- The order of the rows, as the trail and the text tell. -/
def orderWords : Text :=
  match query.ranking? with
  | some kind =>
      let rankedBy := match query.summary? vocabulary with
        | some rule => Text.swap '_' ' ' rule.output
        | none => "metric value"
      let order : Text := if query.descends then "descending" else "ascending"
      "showing the " ++ Tagged.tag kind ++ " results by " ++ rankedBy ++ " (" ++ order ++ ")"
  | none => "ordered most recent first"

/-- The row limit, as the trail and the limit tell. -/
def limitWords : List Text :=
  if query.marked .limitResults then
    ["limited to " ++ Decimal.ofInt query.limit ++ " rows"]
  else []

/-- What is said about a query that filters, summarises, ranks or limits something. -/
def account : Text :=
  Text.join " " ([query.verbWords vocabulary, query.metricWords] ++ query.departmentWords ++
    query.windowWords vocabulary ++ [query.orderWords vocabulary] ++ query.limitWords) ++
    ". " ++ Explanation.trailPart query.matchedPatterns

/-- Nothing but the basic selection was decided, and no window was asked for in vain. -/
def IsGeneral : Prop :=
  query.matchedPatterns = ["basic_selection".toList] ∧ query.dateFilter ≠ "custom"

end CompiledQuery

theorem CompiledQuery.spokenLabel_eq {label : Value} {spoken : Text}
    (success : Explanation.spoken label = .ok spoken) : spokenLabel label = spoken := by
  cases label with
  | text content =>
      cases success
      rfl
  | _ => cases success

theorem desc_suffix {front : Text} {direction : SortDirection} :
    [' ', 'D', 'E', 'S', 'C'] <:+ front ++ [' '] ++ Tagged.tag direction ↔
      direction = .descending := by
  have tag : Tagged.tag direction = match direction with
      | .descending => ['D', 'E', 'S', 'C']
      | .ascending => ['A', 'S', 'C']
      | .unsorted => [] := by
    cases direction <;> decide
  rw [tag, ← List.reverse_prefix]
  cases direction <;> simp

/-- The line of the order ends with the keyword of a descending one just where it is one. -/
theorem Statement.desc_suffix_orderLine {statement : Statement} :
    " DESC".toList <:+ statement.orderLine ↔ statement.direction = .descending := by
  have keyword : " DESC".toList = [' ', 'D', 'E', 'S', 'C'] := by decide
  have line : statement.orderLine = "ORDER BY ".toList ++ statement.orderKey.render ++ [' '] ++
      Tagged.tag statement.direction := by
    have blank : " ".toList = [' '] := by decide
    rw [← blank]
    exact rfl
  rw [keyword, line, desc_suffix]

/-- A window of a rule is named by the label of the rule. -/
theorem Vocabulary.WellFormed.datePart_of_rule {vocabulary : Vocabulary}
    (wellFormed : vocabulary.WellFormed) {rule : DateRangeRule}
    (listed : rule ∈ vocabulary.dateRanges) :
    Explanation.datePart vocabulary rule.kind =
      (Explanation.spoken rule.label).map fun label => ["during ".toList ++ label] := by
  obtain ⟨unnamed, standing⟩ := wellFormed.dateKindNamed rule listed
  have search : (vocabulary.dateRanges.find? fun other =>
      Tagged.tag other.kind == Tagged.tag rule.kind) = some rule := by
    rw [← wellFormed.dateRange?_kind listed]
    apply List.find?_congr
    intro other _
    rw [Bool.eq_iff_iff, beq_iff_eq, beq_iff_eq, Tagged.tag_injective.eq_iff]
  have described : Explanation.describe vocabulary rule.kind = rule.label := by
    rw [Explanation.describe, Explanation.describeTag,
      if_neg fun same => unnamed (Tagged.tag_injective same),
      if_neg fun same => standing (Tagged.tag_injective same), search]
  rw [← described]
  cases kind : rule.kind with
  | none => exact absurd kind unnamed
  | custom => exact absurd kind standing
  | q1 | q2 | q3 | q4 | lastMonth | thisMonth | thisYear =>
      simp only [Explanation.datePart]
      generalize Explanation.spoken (Explanation.describe vocabulary _) = label
      cases label <;> rfl

/-! ## What the trail names -/

namespace Compiler.Run

variable {vocabulary : Vocabulary} {job : Job} {query : CompiledQuery} {style : ParamStyle}
  {question : Text} {intent : Intent}

theorem marked_iff (run : Run vocabulary job query style question intent)
    (wellFormed : vocabulary.WellFormed) (mark : Mark) :
    query.marked mark = true ↔ intent.Decides mark := by
  rw [CompiledQuery.marked, List.contains_iff_mem, run.mem_trail wellFormed]

/-- The trail names the way of summarising that the intent has. -/
theorem summary?_eq (run : Run vocabulary job query style question intent)
    (wellFormed : vocabulary.WellFormed) :
    query.summary? vocabulary = vocabulary.aggregation? intent.aggregation.kind := by
  apply List.find?_congr
  intro rule listed
  have named := wellFormed.aggregationKindNamed rule listed
  rw [Bool.eq_iff_iff, run.marked_iff wellFormed, beq_iff_eq]
  constructor
  · exact fun decided => decided.1
  · exact fun same => ⟨same, same ▸ named⟩

/-- The trail names the date window that the intent has. -/
theorem window?_eq (run : Run vocabulary job query style question intent)
    (wellFormed : vocabulary.WellFormed) :
    query.window? vocabulary = vocabulary.dateRange? intent.dateRange.kind := by
  apply List.find?_congr
  intro rule listed
  have named := wellFormed.dateKindNamed rule listed
  rw [Bool.eq_iff_iff, run.marked_iff wellFormed, beq_iff_eq]
  constructor
  · exact fun decided => decided.1
  · exact fun same => ⟨same, same ▸ named⟩

/-- The trail names the ranking that the intent has. -/
theorem ranking?_eq (run : Run vocabulary job query style question intent)
    (wellFormed : vocabulary.WellFormed) :
    query.ranking? =
      if intent.comparison.kind = .none then none else some intent.comparison.kind := by
  have marked : ∀ kind, query.marked (.comparison kind) =
      (kind == intent.comparison.kind && intent.comparison.kind != .none) := by
    intro kind
    rw [Bool.eq_iff_iff, run.marked_iff wellFormed]
    simp [Intent.Decides]
  simp only [CompiledQuery.ranking?, marked]
  cases intent.comparison.kind <;> decide

theorem parameters_eq (run : Run vocabulary job query style question intent) :
    query.parameters = (intent.department.map Tagged.tag).toList ++ intent.metrics := by
  rw [run.parameters, run.drawn.parameters_eq]

/-- The metrics are what is bound besides the department. -/
theorem metrics_eq (run : Run vocabulary job query style question intent)
    (wellFormed : vocabulary.WellFormed) : query.metrics = intent.metrics := by
  have filtered := run.marked_iff wellFormed .departmentFilter
  rw [CompiledQuery.metrics, run.parameters_eq]
  cases department : intent.department with
  | none => simp [filtered, Intent.Decides, department]
  | some code => simp [filtered, Intent.Decides, department]

/-- The order of the rows is the last line of the text that begins as one. -/
theorem orderLine?_eq (run : Run vocabulary job query style question intent)
    (wellFormed : vocabulary.WellFormed) :
    query.orderLine? = some (intent.statement vocabulary).orderLine := by
  obtain ⟨before, lines⟩ := wellFormed.exists_lines style intent
  have ordered : "ORDER BY ".toList.isPrefixOf (intent.statement vocabulary).orderLine = true :=
    List.isPrefixOf_iff_prefix.mpr (Statement.prefix_orderLine _)
  have limits : ∀ limit, "ORDER BY ".toList.isPrefixOf
      ("LIMIT ".toList ++ Decimal.ofNat limit) = false := by
    intro limit
    rw [← Bool.not_eq_true, List.isPrefixOf_iff_prefix]
    exact Statement.not_order_of_limit _
  have later : ((writtenLimit? intent.limit vocabulary.limits.maximum).map fun limit =>
      "LIMIT ".toList ++ Decimal.ofNat limit).toList.reverse.find?
        (fun line => "ORDER BY ".toList.isPrefixOf line) = none := by
    cases writtenLimit? intent.limit vocabulary.limits.maximum with
    | none => rfl
    | some limit => simp only [Option.map_some, Option.toList_some, List.reverse_singleton,
        List.find?_cons, limits, List.find?_nil]
  rw [CompiledQuery.orderLine?, run.sql, lines, List.reverse_append, List.reverse_cons,
    List.append_assoc, List.find?_append, later, Option.none_or, List.singleton_append,
    List.find?_cons_of_pos ordered]

/-- The text orders the rows as the ranking asks. -/
theorem descends_iff (run : Run vocabulary job query style question intent)
    (wellFormed : vocabulary.WellFormed) (ranked : intent.comparison.kind ≠ .none) :
    query.descends = true ↔ intent.comparison.direction = .descending := by
  have direction : (intent.statement vocabulary).direction = intent.comparison.direction := by
    change Intent.direction intent.comparison = _
    rw [Intent.direction]
    cases kind : intent.comparison.kind with
    | none => exact absurd kind ranked
    | top | bottom => rfl
  rw [CompiledQuery.descends, run.orderLine?_eq wellFormed, Option.any_some,
    List.isSuffixOf_iff_suffix, Statement.desc_suffix_orderLine, direction]

/-! ## The parts of the explanation -/

theorem verbWords_eq (run : Run vocabulary job query style question intent)
    (wellFormed : vocabulary.WellFormed) {verb : Text}
    (found : Explanation.verbPart (vocabulary.aggregation? intent.aggregation.kind) = .ok verb) :
    query.verbWords vocabulary = verb := by
  rw [CompiledQuery.verbWords, run.summary?_eq wellFormed]
  cases search : vocabulary.aggregation? intent.aggregation.kind with
  | none =>
      rw [search] at found
      cases found
      rfl
  | some rule =>
      rw [search] at found
      obtain ⟨label, spoken, rfl⟩ := Outcome.map_eq_ok.mp found
      simp only [CompiledQuery.spokenLabel_eq spoken]

theorem metricWords_eq (run : Run vocabulary job query style question intent)
    (wellFormed : vocabulary.WellFormed) :
    query.metricWords = Explanation.metricPart intent.metrics := by
  have marked : query.marked .metricFilter = !intent.metrics.isEmpty := by
    rw [Bool.eq_iff_iff, run.marked_iff wellFormed]
    simp [Intent.Decides]
  rw [CompiledQuery.metricWords, marked, run.metrics_eq wellFormed, Explanation.metricPart]
  cases intent.metrics <;> rfl

/-- Some way of summarising is named in the trail if the intent has one. -/
theorem any_marked_aggregation (run : Run vocabulary job query style question intent)
    (wellFormed : vocabulary.WellFormed) :
    ((Tagged.all : List AggregationKind).any fun kind => query.marked (.aggregation kind)) =
      (vocabulary.aggregation? intent.aggregation.kind).isSome := by
  have marked : ∀ kind, query.marked (.aggregation kind) =
      (kind == intent.aggregation.kind && intent.aggregation.kind != .none) := by
    intro kind
    rw [Bool.eq_iff_iff, run.marked_iff wellFormed]
    simp [Intent.Decides]
  have present : (vocabulary.aggregation? intent.aggregation.kind).isSome =
      (intent.aggregation.kind != .none) := by
    rw [Bool.eq_iff_iff, Option.isSome_iff_ne_none, ne_eq,
      run.drawn.aggregation?_eq_none wellFormed]
    simp
  simp only [marked, present]
  cases intent.aggregation.kind <;> decide

theorem departmentWords_eq (run : Run vocabulary job query style question intent)
    (wellFormed : vocabulary.WellFormed) :
    query.departmentWords = Explanation.departmentPart intent.department
      (vocabulary.aggregation? intent.aggregation.kind).isSome := by
  have filtered : query.marked .departmentFilter = intent.department.isSome := by
    rw [Bool.eq_iff_iff, run.marked_iff wellFormed, Intent.Decides]
  rw [CompiledQuery.departmentWords, filtered, run.any_marked_aggregation wellFormed,
    run.parameters_eq]
  cases intent.department with
  | none => cases (vocabulary.aggregation? intent.aggregation.kind).isSome <;> rfl
  | some department => rfl

theorem windowWords_eq (run : Run vocabulary job query style question intent)
    (wellFormed : vocabulary.WellFormed) {window : List Text}
    (found : Explanation.datePart vocabulary intent.dateRange.kind = .ok window) :
    query.windowWords vocabulary = window := by
  rw [CompiledQuery.windowWords, run.window?_eq wellFormed, run.dateFilter]
  rcases run.drawn.dateRange with range | range | ⟨rule, listed, range⟩
  · rw [range] at found ⊢
    cases found
    rw [wellFormed.dateRange?_eq_none (.inl rfl)]
    rfl
  · rw [range] at found ⊢
    cases found
    rw [wellFormed.dateRange?_eq_none (.inr rfl)]
    rfl
  · obtain ⟨unnamed, standing⟩ := wellFormed.dateKindNamed rule listed
    have kind : intent.dateRange.kind = rule.kind := congrArg DateRange.kind range
    rw [kind] at found ⊢
    rw [wellFormed.datePart_of_rule listed] at found
    obtain ⟨label, spoken, rfl⟩ := Outcome.map_eq_ok.mp found
    have plain : Tagged.tag rule.kind ≠ "custom" := fun same =>
      standing (Tagged.tag_injective same)
    rw [wellFormed.dateRange?_kind listed, if_neg plain, List.append_nil]
    simp only [CompiledQuery.spokenLabel_eq spoken]

theorem orderWords_eq (run : Run vocabulary job query style question intent)
    (wellFormed : vocabulary.WellFormed) :
    query.orderWords vocabulary = Explanation.orderPart
      (vocabulary.aggregation? intent.aggregation.kind) intent.comparison := by
  rw [CompiledQuery.orderWords, run.ranking?_eq wellFormed, run.summary?_eq wellFormed]
  unfold Explanation.orderPart
  by_cases ranked : intent.comparison.kind = .none
  · rw [if_pos ranked, ranked]
  · have order : (if query.descends then "descending".toList else "ascending".toList) =
        if intent.comparison.direction = .descending then "descending".toList
        else "ascending".toList :=
      if_congr (run.descends_iff wellFormed ranked) rfl rfl
    rw [if_neg ranked]
    cases kind : intent.comparison.kind with
    | none => exact absurd kind ranked
    | top | bottom =>
        cases vocabulary.aggregation? intent.aggregation.kind with
        | none => simp only [order]
        | some rule => simp only [order]

theorem limitWords_eq (run : Run vocabulary job query style question intent)
    (wellFormed : vocabulary.WellFormed) :
    query.limitWords = Explanation.limitPart
      ((assemble vocabulary style intent).trail.contains "limit_results".toList) intent.limit := by
  rw [CompiledQuery.limitWords, CompiledQuery.marked, run.trail, run.limit_eq wellFormed]
  rfl

/-! ## The explanation as a whole -/

/-- The trail is the general one if the intent filters, summarises, ranks and limits
nothing, or asks for an unrecognised window alone. -/
theorem isGeneral_iff (run : Run vocabulary job query style question intent)
    (wellFormed : vocabulary.WellFormed) :
    query.IsGeneral ↔ Explanation.isUnfiltered intent = true := by
  have basic : query.matchedPatterns = ["basic_selection".toList] ↔
      intent.decisions = [.basicSelection] := by
    rw [run.trail_eq wellFormed]
    exact (List.map_injective_iff.mpr Mark.tag_injective).eq_iff (b := [.basicSelection])
  have window : query.dateFilter ≠ "custom" ↔ intent.dateRange.kind ≠ .custom := by
    rw [run.dateFilter]
    exact Tagged.tag_injective.ne_iff (y := DateKind.custom)
  rw [CompiledQuery.IsGeneral, basic, window, Intent.decisions_eq_basic]
  simp only [Explanation.isUnfiltered, Bool.and_eq_true, Option.isNone_iff_eq_none, beq_iff_eq,
    List.isEmpty_iff]
  constructor
  · rintro ⟨⟨summary, department, range, metrics, ranking, limit⟩, recognised⟩
    have unfiltered := range.resolve_right recognised
    exact ⟨⟨⟨⟨⟨department, unfiltered⟩, summary⟩, metrics⟩, ranking⟩, limit⟩
  · rintro ⟨⟨⟨⟨⟨department, unfiltered⟩, summary⟩, metrics⟩, ranking⟩, limit⟩
    have recognised : intent.dateRange.kind ≠ .custom := by
      rw [unfiltered]
      decide
    exact ⟨⟨summary, department, .inl unfiltered, metrics, ranking, limit⟩, recognised⟩

theorem explanation_eq_account (run : Run vocabulary job query style question intent)
    (wellFormed : vocabulary.WellFormed)
    (filtered : Explanation.isUnfiltered intent ≠ true) :
    query.explanation = query.account vocabulary := by
  have explained := run.explained
  rw [explain, if_neg filtered] at explained
  obtain ⟨verb, verbFound, explained⟩ := Outcome.bind_eq_ok.mp explained
  obtain ⟨window, windowFound, explained⟩ := Outcome.bind_eq_ok.mp explained
  rw [← Outcome.pure_eq_ok.mp explained, CompiledQuery.account,
    run.verbWords_eq wellFormed verbFound, run.metricWords_eq wellFormed,
    run.departmentWords_eq wellFormed, run.windowWords_eq wellFormed windowFound,
    run.orderWords_eq wellFormed, run.limitWords_eq wellFormed, run.trail]

end Compiler.Run

namespace CompiledQuery

/-- How an account may end before its last point. -/
def endings : List Text :=
  ["ordered most recent first", ")", " rows"]

theorem exists_ending_orderWords (vocabulary : Vocabulary) (query : CompiledQuery) :
    ∃ before, ∃ ending ∈ endings, query.orderWords vocabulary = before ++ ending := by
  rw [orderWords]
  split
  next => exact ⟨_, ")".toList, by decide, rfl⟩
  next => exact ⟨[], "ordered most recent first".toList, by decide, rfl⟩

/-- The last part of an account is the order of the rows or the row limit. -/
theorem exists_ending (vocabulary : Vocabulary) (query : CompiledQuery) :
    ∃ before, ∃ ending ∈ endings, query.account vocabulary =
      before ++ ending ++ ". ".toList ++ Explanation.trailPart query.matchedPatterns := by
  have regroup : ∀ first separator second ending : Text,
      first ++ separator ++ (second ++ ending) = first ++ separator ++ second ++ ending := by
    simp only [List.append_assoc, implies_true]
  rw [account]
  generalize parts : [query.verbWords vocabulary, query.metricWords] ++ query.departmentWords ++
    query.windowWords vocabulary = front
  have nonempty : front ≠ [] := by
    rw [← parts]
    simp
  rw [limitWords]
  split
  next =>
    rw [Text.join_concat (List.append_ne_nil_of_left_ne_nil nonempty _), regroup]
    exact ⟨_, " rows".toList, by decide, rfl⟩
  next =>
    obtain ⟨before, ending, listed, written⟩ := query.exists_ending_orderWords vocabulary
    rw [List.append_nil, Text.join_concat nonempty, written, regroup]
    exact ⟨_, ending, listed, rfl⟩

/-- No account of a query is the general explanation. -/
theorem account_ne_general (vocabulary : Vocabulary) (query : CompiledQuery) :
    query.account vocabulary ≠
      Explanation.general ++ " " ++ Explanation.trailPart query.matchedPatterns := by
  have others : ∀ ending ∈ endings, ¬ending ++ ['.'] <:+ Explanation.general := by decide
  have split : ". ".toList = ['.'] ++ " ".toList := by decide
  intro same
  obtain ⟨before, ending, listed, written⟩ := query.exists_ending vocabulary
  rw [written, split, ← List.append_assoc] at same
  have whole : before ++ ending ++ ['.'] = Explanation.general :=
    List.append_cancel_right (List.append_cancel_right same)
  rw [List.append_assoc] at whole
  exact others ending listed ⟨before, whole⟩

end CompiledQuery

/-- The explanation of a query is the general one just where nothing was decided, and
otherwise tells what the trail, the text, the parameters and the fields tell. -/
theorem explanation_agrees {raw : Value} {vocabulary : Vocabulary}
    (accepted : Vocabulary.read raw = .ok vocabulary) {surroundings : Surroundings} {job : Job}
    {query : CompiledQuery}
    (returned : Compiler.compile surroundings { job with vocabulary := some vocabulary } =
      .ok query) :
    (query.explanation =
        Explanation.general ++ " " ++ Explanation.trailPart query.matchedPatterns ↔
      query.IsGeneral) ∧
    (¬query.IsGeneral → query.explanation = query.account vocabulary) := by
  have wellFormed := Vocabulary.wellFormed_of_read accepted
  obtain ⟨style, question, intent, run⟩ := Compiler.exists_run returned
  rw [run.isGeneral_iff wellFormed]
  have told := run.explanation_eq_account wellFormed
  refine ⟨⟨?_, ?_⟩, told⟩
  · intro same
    by_contra filtered
    exact query.account_ne_general vocabulary ((told filtered).symm.trans same)
  · intro unfiltered
    have explained := run.explained
    rw [explain, if_pos unfiltered, ← run.trail] at explained
    exact (Except.ok.inj explained).symm

namespace Compiler

theorem explanation_agrees_sample :
    ∃ query, compileSample "Most total rain of the people in spring" = .ok query ∧
      ¬query.IsGeneral ∧ query.explanation = query.account Vocabulary.sampleVocabulary := by
  obtain ⟨query, returned, -, filtered⟩ := exists_compileSample
  have particular : ¬query.IsGeneral := by
    rintro ⟨trail, -⟩
    rw [trail] at filtered
    exact absurd filtered (by decide)
  rw [compileSample] at returned
  have agreed := explanation_agrees Vocabulary.read_sampleSource returned
  exact ⟨query, returned, particular, agreed.2 particular⟩

end Compiler

end Inquiry
