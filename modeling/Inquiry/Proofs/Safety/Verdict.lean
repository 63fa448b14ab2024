import Inquiry.Proofs.Compiler.Run
import Inquiry.Proofs.Safety.Assembled
import Inquiry.Proofs.Safety.RowLimit

/-!
# Verdicts on assembled statements

The gate reads two sorts of numbers, the row limit behind its keyword and the numbers of
placeholders, and digits that are too many stop it before it has judged anything.

An assembled statement ends with its direction or with its own row limit, and the numbers of
its placeholders are read only after they were counted.  So nothing that a predicate says
reaches either reading, and the gate comes to a verdict.
-/

namespace Inquiry

/-! ## The end of a statement -/

variable {vocabulary : Vocabulary} {intent : Intent}

/-- The rows are always sorted if the rules say how. -/
theorem Intent.Drawn.direction_ne (drawn : intent.Drawn vocabulary)
    (sorted : ∀ rule ∈ vocabulary.comparisons, rule.direction ≠ .unsorted) :
    Intent.direction intent.comparison ≠ .unsorted := by
  rcases drawn.comparison with unranked | ⟨rule, listed, ranked⟩
  · rw [unranked]
    decide
  · rw [ranked, Intent.direction]
    split
    · decide
    · exact sorted rule listed

/-- The last word of a statement is its direction or its row limit. -/
theorem exists_lastWord (style : ParamStyle)
    (sorted : Intent.direction intent.comparison ≠ .unsorted) :
    ∃ front gap last, (assemble vocabulary style intent).sql = front ++ gap :: last ∧
      Text.isBlank gap = true ∧ last ≠ [] ∧ (∀ c ∈ last, Text.isBlank c = false) ∧
      (intent.limit < 10 ^ Decimal.digitLimit → last.length ≤ Decimal.digitLimit) := by
  change ∃ front gap last, (intent.statement vocabulary).render style = _ ∧ _
  have limit : (intent.statement vocabulary).limit =
      writtenLimit? intent.limit vocabulary.limits.maximum := rfl
  rw [Statement.render_unlimited, limit, writtenLimit?]
  split
  · obtain ⟨before, ordered⟩ := Statement.exists_order style (intent.statement vocabulary)
    have direction : (intent.statement vocabulary).direction =
        Intent.direction intent.comparison := rfl
    rw [ordered, direction, Option.elim_none, List.append_nil, List.append_assoc _ " ".toList]
    have all : ∀ direction : SortDirection, direction ≠ .unsorted →
        Tagged.tag direction ≠ [] ∧ (∀ c ∈ Tagged.tag direction, Text.isBlank c = false) ∧
          (Tagged.tag direction).length ≤ 4 := by
      intro direction written
      cases direction with
      | unsorted => exact absurd rfl written
      | ascending | descending =>
          exact ⟨by decide, Text.forall_not_of_all (by decide), by decide⟩
    obtain ⟨nonempty, solid, short⟩ := all _ sorted
    exact ⟨_, ' ', _, rfl, by decide, nonempty, solid, fun _ => short.trans (by decide)⟩
  · refine ⟨(intent.statement vocabulary).unlimited.render style ++ "\nLIMIT".toList, ' ',
      Decimal.ofNat intent.limit, ?_, by decide, Decimal.ofNat_ne_nil _, ?_,
      Decimal.length_ofNat_le_iff.mpr⟩
    · simp
    · exact fun c member => Safety.isBlank_of_isDigit (Decimal.isDigit_of_mem_ofNat member)

theorem strip_sql (style : ParamStyle)
    (sorted : Intent.direction intent.comparison ≠ .unsorted) :
    Text.strip (assemble vocabulary style intent).sql = (assemble vocabulary style intent).sql := by
  obtain ⟨front, gap, last, whole, -, nonempty, solid, -⟩ := exists_lastWord style sorted
  apply Text.strip_eq_self (begins_sql vocabulary style intent)
  rw [whole, List.getLast?_append_of_ne_nil _ (List.cons_ne_nil _ _),
    List.getLast?_cons_of_ne_nil nonempty]
  exact Text.getLast?_of_outside solid

/-! ## Placeholders -/

namespace Vocabulary.WellFormed

/-- As many placeholders as parameters leave none for the date condition. -/
theorem unmarked_predicate (wellFormed : vocabulary.WellFormed) (drawn : intent.Drawn vocabulary)
    {style : ParamStyle} (agree : Safety.countPlaceholders (some style)
      (assemble vocabulary style intent).sql = (assemble vocabulary style intent).parameters.length)
    (present : intent.dateRange.predicate ≠ []) :
    Safety.Unmarked style intent.dateRange.predicate := by
  have lengths :=
    Condition.length_marks_renderAll (wellFormed.sign_not_mem_columns style intent) 0
  have parameters : (assemble vocabulary style intent).parameters =
      (intent.conditions vocabulary.schema).flatMap (·.parameters) := rfl
  rw [Safety.countPlaceholders_eq_length] at agree
  rw [intent.surplus_conditions, if_neg present, boundParams_of_drawn drawn,
    Safety.countPlaceholders_eq_length, ← wellFormed.marks_sql, ← parameters] at lengths
  rw [← Safety.placeholderMarks_eq_nil_iff, ← List.length_eq_zero_iff]
  simp only [List.length_nil] at lengths
  omega

/-- Placeholders are judged if no more values are bound than can be numbered. -/
theorem exists_placeholderViolations (wellFormed : vocabulary.WellFormed)
    (drawn : intent.Drawn vocabulary) (style : ParamStyle)
    (few : (assemble vocabulary style intent).parameters.length < 10 ^ Decimal.digitLimit) :
    ∃ violations, Safety.placeholderViolations (some style)
      (assemble vocabulary style intent).sql
      ((assemble vocabulary style intent).parameters.map .text) = .ok violations := by
  rw [Safety.placeholderViolations]
  simp only [List.length_map, ne_eq, ite_not]
  split
  next agree =>
    cases style with
    | qmark => exact ⟨_, rfl⟩
    | dollar =>
        have settled := Intent.settled_conditions vocabulary.schema fun present =>
          ⟨wellFormed.unmarked_predicate drawn agree present, boundParams_of_drawn drawn⟩
        have numbered := Condition.marks_renderAll settled
          (wellFormed.sign_not_mem_columns .dollar intent) 0
        rw [← wellFormed.marks_sql, Nat.zero_add] at numbered
        rw [if_pos rfl, placeholderNumbers_eq_ok numbered few]
        exact ⟨_, rfl⟩
  next => exact ⟨_, rfl⟩

end Vocabulary.WellFormed

/-! ## The verdict -/

theorem Vocabulary.WellFormed.exists_check (wellFormed : vocabulary.WellFormed)
    (drawn : intent.Drawn vocabulary) (style : ParamStyle)
    (sorted : Intent.direction intent.comparison ≠ .unsorted)
    (small : intent.limit < 10 ^ Decimal.digitLimit)
    (few : (assemble vocabulary style intent).parameters.length < 10 ^ Decimal.digitLimit) :
    ∃ violations, Safety.check vocabulary (some style) (assemble vocabulary style intent).sql
      ((assemble vocabulary style intent).parameters.map .text) = .ok violations := by
  obtain ⟨front, gap, last, whole, blank, -, solid, short⟩ := exists_lastWord style sorted
  obtain ⟨limits, limitsJudged⟩ :=
    Safety.exists_limitViolations whole blank solid (short small) vocabulary.limits.maximum
  obtain ⟨placeholders, placeholdersJudged⟩ :=
    wellFormed.exists_placeholderViolations drawn style few
  rw [Safety.check, strip_sql style sorted, limitsJudged, placeholdersJudged]
  exact ⟨_, rfl⟩

/-- The gate has passed the text of every query that is returned. -/
theorem Compiler.passed_of_compile {surroundings : Surroundings} {job : Job}
    {query : CompiledQuery}
    (success : compile surroundings { job with vocabulary := some vocabulary } = .ok query) :
    Safety.Passed vocabulary (some query.paramStyle) (Text.strip query.sql)
      (query.parameters.map .text) := by
  obtain ⟨_, chosen, success⟩ := Outcome.bind_eq_ok.mp success
  obtain rfl := Outcome.pure_eq_ok.mp chosen
  obtain ⟨style, -, success⟩ := Outcome.bind_eq_ok.mp success
  obtain ⟨question, -, success⟩ := Outcome.bind_eq_ok.mp success
  obtain ⟨_, -, success⟩ := Outcome.bind_eq_ok.mp success
  obtain ⟨_, -, success⟩ := Outcome.bind_eq_ok.mp success
  obtain ⟨intent, -, success⟩ := Outcome.bind_eq_ok.mp success
  obtain ⟨_, judged, success⟩ := Outcome.bind_eq_ok.mp success
  obtain ⟨explanation, -, success⟩ := Outcome.bind_eq_ok.mp success
  obtain rfl := Outcome.pure_eq_ok.mp success
  obtain ⟨violations, checked, silent⟩ := Outcome.bind_eq_ok.mp judged
  cases violations with
  | nil => exact Safety.passed_of_check checked
  | cons first others => cases silent

end Inquiry
