import Inquiry.Proofs.Extraction
import Inquiry.Proofs.Vocabulary.WellFormed

/-!
# What the trail tells

A trail is a list of marks under their tags, and no two marks share a tag.  For an
intent that was extracted from a question the marks follow from the kinds that it
names, the filters that it has and its row limit.
-/

namespace Inquiry

/-! ## Tags of marks -/

namespace Mark

/-- Every mark. -/
def all : List Mark :=
  [basicSelection, departmentFilter, metricFilter, limitResults] ++
    (Tagged.all : List AggregationKind).map aggregation ++
    (Tagged.all : List DateKind).map dateFilter ++
    (Tagged.all : List ComparisonKind).map comparison

theorem mem_all (mark : Mark) : mark ∈ all := by
  cases mark with
  | aggregation kind => cases kind <;> decide
  | dateFilter kind => cases kind <;> decide
  | comparison kind => cases kind <;> decide
  | basicSelection => decide
  | departmentFilter => decide
  | metricFilter => decide
  | limitResults => decide

theorem tag_injective : Function.Injective tag := by
  intro first second same
  have distinct : (all.map tag).Nodup := by decide
  exact List.inj_on_of_nodup_map distinct (mem_all first) (mem_all second) same

/-- The mark is one of a ranking. -/
def isComparison : Mark → Bool
  | comparison _ => true
  | _ => false

theorem isPrefixOf_tag (mark : Mark) :
    "comparison_".toList.isPrefixOf mark.tag = mark.isComparison := by
  have known : ∀ mark ∈ all, "comparison_".toList.isPrefixOf mark.tag = mark.isComparison := by
    decide
  exact known mark (mem_all mark)

end Mark

/-! ## Trails of intents -/

namespace Intent

theorem mem_leaf {mark other : Mark} {made : Bool} :
    mark ∈ (if made = true then [other] else []) ↔ mark = other ∧ made = true := by
  cases made <;> simp

variable (vocabulary : Vocabulary) (style : ParamStyle) (intent : Intent)

theorem mem_trail {mark : Mark} :
    mark.tag ∈ (assemble vocabulary style intent).trail ↔ mark ∈ intent.marks vocabulary :=
  List.mem_map_of_injective Mark.tag_injective

/-- The trail names the ranking of the intent, and no other. -/
theorem find_comparison :
    (assemble vocabulary style intent).trail.find?
        (fun pattern => "comparison_".toList.isPrefixOf pattern) =
      if intent.comparison.kind = .none then none
      else some (Mark.comparison intent.comparison.kind).tag := by
  rw [assemble, List.find?_map]
  have probe : ((fun pattern => "comparison_".toList.isPrefixOf pattern) ∘ fun mark : Mark =>
      mark.tag) = Mark.isComparison := by
    funext mark
    exact mark.isPrefixOf_tag
  have leaf : ∀ (mark : Mark) (made : Bool),
      (if made = true then [mark] else []).find? Mark.isComparison =
        if made && mark.isComparison then some mark else none := by
    intro mark made
    cases made <;> cases kind : mark.isComparison <;> simp [kind]
  rw [probe, marks]
  cases vocabulary.aggregation? intent.aggregation.kind <;>
    simp only [List.find?_append, leaf, List.find?_cons, List.find?_nil, Mark.isComparison,
      Bool.and_false, Bool.and_true, Bool.false_eq_true, if_false, Option.or_none,
      Option.none_or] <;>
    cases intent.comparison.kind <;> rfl

/-- The trail tells whether a row limit was written. -/
theorem contains_limitResults :
    (assemble vocabulary style intent).trail.contains Mark.limitResults.tag =
      (writtenLimit? intent.limit vocabulary.limits.maximum).isSome := by
  have tagged : (assemble vocabulary style intent).trail.contains Mark.limitResults.tag = true ↔
      Mark.limitResults ∈ intent.marks vocabulary := by
    rw [List.contains_iff_mem, mem_trail]
  rw [Bool.eq_iff_iff, tagged, marks]
  cases vocabulary.aggregation? intent.aggregation.kind <;>
    simp only [List.mem_append, List.mem_singleton, mem_leaf, reduceCtorEq, false_and,
      or_false, false_or, true_and]

/-- The limit of a compiled query is the written one, or zero. -/
theorem limit_of_trail :
    (if (assemble vocabulary style intent).trail.contains Mark.limitResults.tag then
        (intent.limit : Int) else 0) =
      ((writtenLimit? intent.limit vocabulary.limits.maximum).getD 0 : Nat) := by
  rw [contains_limitResults, writtenLimit?]
  split <;> simp

end Intent

/-! ## Extracted intents -/

namespace Intent

/-- The marks that the kinds, filters and row limit of an intent call for. -/
def decisions (intent : Intent) : List Mark :=
  let leaves (mark : Mark) (made : Bool) : List Mark :=
    if made then [mark] else []
  [if intent.aggregation.kind = .none then .basicSelection
    else .aggregation intent.aggregation.kind] ++
  leaves .departmentFilter intent.department.isSome ++
  leaves (.dateFilter intent.dateRange.kind)
    (intent.dateRange.kind != .none && intent.dateRange.kind != .custom) ++
  leaves .metricFilter (!intent.metrics.isEmpty) ++
  leaves (.comparison intent.comparison.kind) (intent.comparison.kind != .none) ++
  leaves .limitResults (intent.limit != 0)

/-- The decision that a mark stands for was made. -/
def Decides (intent : Intent) : Mark → Prop
  | .basicSelection => intent.aggregation.kind = .none
  | .aggregation kind => kind = intent.aggregation.kind ∧ intent.aggregation.kind ≠ .none
  | .departmentFilter => intent.department.isSome = true
  | .dateFilter kind => kind = intent.dateRange.kind ∧
      intent.dateRange.kind ≠ .none ∧ intent.dateRange.kind ≠ .custom
  | .metricFilter => intent.metrics ≠ []
  | .comparison kind => kind = intent.comparison.kind ∧ intent.comparison.kind ≠ .none
  | .limitResults => intent.limit ≠ 0

theorem mem_decisions {intent : Intent} {mark : Mark} :
    mark ∈ intent.decisions ↔ intent.Decides mark := by
  have summary : mark = (if intent.aggregation.kind = .none then .basicSelection
        else .aggregation intent.aggregation.kind) ↔
      mark = .basicSelection ∧ intent.aggregation.kind = .none ∨
        mark = .aggregation intent.aggregation.kind ∧ intent.aggregation.kind ≠ .none := by
    split <;> simp [*]
  simp only [decisions, List.mem_append, List.mem_singleton, mem_leaf, summary]
  cases mark <;>
    simp only [Decides, reduceCtorEq, false_and, false_or, or_false, true_and, ne_eq,
      Bool.not_eq_true', List.isEmpty_eq_false_iff, bne_iff_ne, Bool.and_eq_true,
      Mark.aggregation.injEq, Mark.dateFilter.injEq, Mark.comparison.injEq]

/-- Nothing but the basic selection was decided. -/
theorem decisions_eq_basic {intent : Intent} :
    intent.decisions = [.basicSelection] ↔
      intent.aggregation.kind = .none ∧ intent.department = none ∧
        (intent.dateRange.kind = .none ∨ intent.dateRange.kind = .custom) ∧
        intent.metrics = [] ∧ intent.comparison.kind = .none ∧ intent.limit = 0 := by
  constructor
  · intro whole
    have decided : ∀ mark, intent.Decides mark ↔ mark = .basicSelection := by
      intro mark
      rw [← mem_decisions, whole, List.mem_singleton]
    have summary := (decided .basicSelection).mpr rfl
    have department := decided .departmentFilter
    have window := decided (.dateFilter intent.dateRange.kind)
    have metrics := decided .metricFilter
    have ranking := decided (.comparison intent.comparison.kind)
    have limit := decided .limitResults
    simp only [Decides, reduceCtorEq, iff_false, true_and] at department window metrics
    simp only [Decides, reduceCtorEq, iff_false, true_and] at ranking limit
    exact ⟨summary, by simpa using department, by tauto, by simpa using metrics,
      by simpa using ranking, by simpa using limit⟩
  · rintro ⟨summary, department, window, metrics, ranking, limit⟩
    rcases window with window | window <;>
      simp [decisions, summary, department, window, metrics, ranking, limit]

namespace Drawn

variable {vocabulary : Vocabulary} {intent : Intent}

/-- A way of summarising has a rule. -/
theorem aggregation?_eq_none (wellFormed : vocabulary.WellFormed)
    (drawn : intent.Drawn vocabulary) :
    vocabulary.aggregation? intent.aggregation.kind = none ↔
      intent.aggregation.kind = .none := by
  rcases drawn.aggregation with summary | ⟨rule, listed, summary⟩
  · simp [summary, wellFormed.aggregation?_none]
  · simp [summary, wellFormed.aggregation?_kind listed,
      wellFormed.aggregationKindNamed rule listed]

/-- Only the windows that no rule stands for filter nothing. -/
theorem predicate_eq_nil (wellFormed : vocabulary.WellFormed)
    (drawn : intent.Drawn vocabulary) :
    intent.dateRange.predicate = [] ↔
      intent.dateRange.kind = .none ∨ intent.dateRange.kind = .custom := by
  rcases drawn.dateRange with range | range | ⟨rule, listed, range⟩
  · simp [range]
  · simp [range]
  · obtain ⟨given, nonempty, written⟩ := wellFormed.predicates rule listed
    have column : vocabulary.schema.fact.column vocabulary.schema.fact.metricDate ≠ [] := by
      simp [FactTable.column, qualified]
    have predicate : rule.predicate ≠ [] := by
      rw [written]
      exact Text.replace_ne_nil column nonempty
    simp [range, DateRangeRule.dateRange, predicate, wellFormed.dateKindNamed rule listed]

/-- A limit that was extracted is written unless it is zero. -/
theorem writtenLimit?_eq (wellFormed : vocabulary.WellFormed)
    (drawn : intent.Drawn vocabulary) :
    writtenLimit? intent.limit vocabulary.limits.maximum =
      if intent.limit = 0 then none else some intent.limit := by
  have bounded : intent.limit ≤ vocabulary.limits.maximum := by
    rcases drawn.limit with within | default
    · exact within
    · exact default ▸ wellFormed.defaultRanked
  simp only [writtenLimit?, Nat.not_lt.mpr bounded, or_false]

/-- The marks of an extracted intent can be told from the intent alone. -/
theorem marks_eq (wellFormed : vocabulary.WellFormed) (drawn : intent.Drawn vocabulary) :
    intent.marks vocabulary = intent.decisions := by
  have window : (!intent.dateRange.predicate.isEmpty) =
      (intent.dateRange.kind != .none && intent.dateRange.kind != .custom) := by
    rw [Bool.eq_iff_iff]
    simp [drawn.predicate_eq_nil wellFormed]
  have limited : (writtenLimit? intent.limit vocabulary.limits.maximum).isSome =
      (intent.limit != 0) := by
    rw [drawn.writtenLimit?_eq wellFormed]
    split <;> simp_all
  have named := drawn.aggregation?_eq_none wellFormed
  rw [marks, decisions, window, limited]
  cases found : vocabulary.aggregation? intent.aggregation.kind with
  | none =>
      rw [if_pos (named.mp found)]
  | some rule =>
      have summarised : intent.aggregation.kind ≠ .none := by
        intro absent
        rw [named.mpr absent] at found
        cases found
      have same : rule.kind = intent.aggregation.kind := by
        simpa using List.find?_some found
      rw [if_neg summarised, ← same]

end Drawn

end Intent

end Inquiry
