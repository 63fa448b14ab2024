import Inquiry.Proofs.Statement.Lines
import Inquiry.Proofs.Statement.Names
import Inquiry.Safety.Placeholder

/-!
# Placeholders and parameters

No name of a statement holds a placeholder, and no two of its parts make one at
the place where they meet.  The placeholders of a statement are therefore those
of its conditions.

Conditions write their placeholders in the order in which they bind their
values, so the placeholders count up from one as long as the date condition
neither writes nor binds any.
-/

namespace Inquiry

open Statement (isGap)

/-- The character that opens a placeholder. -/
def ParamStyle.sign : ParamStyle → Char
  | .dollar => '$'
  | .qmark => '?'

/-- What is found of the placeholder at a position: its number, or the sign alone. -/
def ParamStyle.mark : ParamStyle → Nat → Text
  | .dollar, position => Decimal.ofNat position
  | .qmark, _ => "?"

namespace Safety

/-- The placeholders of a style in a text, in order. -/
def placeholderMarks (style : ParamStyle) (text : Text) : List Text :=
  match style with
  | .dollar => numberedMarks text
  | .qmark => (text.filter (· == '?')).map fun c => [c]

/-- The text holds no placeholder of a style: no question mark, or no dollar sign
with a decimal digit of any script after it. -/
def Unmarked (style : ParamStyle) (text : Text) : Prop :=
  match style with
  | .dollar => ∀ digit, Text.isDecimal digit = true → ¬ ['$', digit] <:+: text
  | .qmark => '?' ∉ text

theorem countPlaceholders_eq_length (style : ParamStyle) (text : Text) :
    countPlaceholders (some style) text = (placeholderMarks style text).length := by
  cases style with
  | dollar => rfl
  | qmark => simp [countPlaceholders, placeholderMarks, List.count_eq_countP,
      List.countP_eq_length_filter]

/-! ## Numbered placeholders -/

/-- No numbered placeholder reaches across a character that is neither a digit nor the
dollar sign. -/
theorem numberedMarks_append_cons {c : Char} (digit : Text.isDecimal c = false)
    (sign : c ≠ '$') (left right : Text) :
    numberedMarks (left ++ c :: right) = numberedMarks left ++ numberedMarks right := by
  induction left with
  | nil => simp [numberedMarks, sign]
  | cons first rest ih =>
      have digits : (rest ++ c :: right).takeWhile Text.isDecimal =
          rest.takeWhile Text.isDecimal := by
        rw [List.takeWhile_append]
        split
        next whole => simp [digit, (List.takeWhile_prefix _).eq_of_length whole]
        next => rfl
      simp only [List.cons_append, numberedMarks, digits, ih]
      split
      · split <;> simp
      · rfl

theorem numberedMarks_of_not_mem {text : Text} (absent : '$' ∉ text) :
    numberedMarks text = [] := by
  induction text with
  | nil => rfl
  | cons c rest ih =>
      have distinct : c ≠ '$' := Ne.symm (List.ne_of_not_mem_cons absent)
      rw [numberedMarks, if_neg distinct, ih (List.not_mem_of_not_mem_cons absent)]

theorem numberedMarks_sign {digits : Text} (nonempty : digits ≠ [])
    (all : ∀ c ∈ digits, Text.isDecimal c = true) :
    numberedMarks ('$' :: digits) = [digits] := by
  have whole : digits.takeWhile Text.isDecimal = digits :=
    List.takeWhile_eq_self_iff.mpr all
  have absent : '$' ∉ digits := by
    intro member
    exact absurd (all '$' member) (by decide)
  simp [numberedMarks, whole, nonempty, numberedMarks_of_not_mem absent]

/-- The text begins with a numbered placeholder. -/
def beginsMark (text : Text) : Bool :=
  text.head? == some '$' && text.tail.head?.any Text.isDecimal

theorem numberedMarks_cons_eq_nil {c : Char} {rest : Text} :
    numberedMarks (c :: rest) = [] ↔
      beginsMark (c :: rest) = false ∧ numberedMarks rest = [] := by
  by_cases sign : c = '$'
  · cases rest with
    | nil => simp [numberedMarks, beginsMark]
    | cons second others =>
        by_cases digit : Text.isDecimal second = true
        · simp [numberedMarks, beginsMark, sign, digit]
        · rw [numberedMarks, if_pos sign]
          simp [beginsMark, digit]
  · simp [numberedMarks, beginsMark, sign]

theorem unmarked_cons {c : Char} {rest : Text} :
    Unmarked .dollar (c :: rest) ↔
      beginsMark (c :: rest) = false ∧ Unmarked .dollar rest := by
  have begins : (∀ digit, Text.isDecimal digit = true → ¬ ['$', digit] <+: c :: rest) ↔
      beginsMark (c :: rest) = false := by
    cases rest with
    | nil => simp [beginsMark]
    | cons second others =>
        simp only [beginsMark, List.cons_prefix_cons, List.head?_cons, List.tail_cons,
          Option.any_some]
        constructor
        · intro none
          by_contra found
          simp only [Bool.not_eq_false, Bool.and_eq_true, beq_iff_eq, Option.some.injEq]
            at found
          exact none second found.2 ⟨found.1.symm, rfl, List.nil_prefix⟩
        · rintro none digit decimal ⟨rfl, rfl, -⟩
          simp [decimal] at none
  simp only [Unmarked, List.infix_cons_iff, not_or, ← begins]
  exact ⟨fun both => ⟨fun digit decimal => (both digit decimal).1,
      fun digit decimal => (both digit decimal).2⟩,
    fun both digit decimal => ⟨both.1 digit decimal, both.2 digit decimal⟩⟩

theorem numberedMarks_eq_nil_iff {text : Text} :
    numberedMarks text = [] ↔ Unmarked .dollar text := by
  induction text with
  | nil => simp [numberedMarks, Unmarked]
  | cons c rest ih => rw [numberedMarks_cons_eq_nil, unmarked_cons, ih]

/-! ## Placeholders of both styles -/

theorem filter_beq_eq_nil_iff {c : Char} {text : Text} :
    text.filter (· == c) = [] ↔ c ∉ text := by
  rw [List.filter_beq, List.replicate_eq_nil_iff, List.count_eq_zero]

theorem placeholderMarks_eq_nil_iff {style : ParamStyle} {text : Text} :
    placeholderMarks style text = [] ↔ Unmarked style text := by
  cases style with
  | dollar => exact numberedMarks_eq_nil_iff
  | qmark => simp only [placeholderMarks, Unmarked, List.map_eq_nil_iff, filter_beq_eq_nil_iff]

theorem placeholderMarks_of_not_mem {style : ParamStyle} {text : Text}
    (absent : style.sign ∉ text) : placeholderMarks style text = [] := by
  cases style with
  | dollar => exact numberedMarks_of_not_mem absent
  | qmark => exact placeholderMarks_eq_nil_iff.mpr absent

theorem placeholderMarks_placeholder (style : ParamStyle) (position : Nat) :
    placeholderMarks style (style.placeholder position) = [style.mark position] := by
  cases style with
  | dollar =>
      apply numberedMarks_sign (Decimal.ofNat_ne_nil position)
      exact fun c member => Decimal.isDecimal_of_isDigit (Decimal.isDigit_of_mem_ofNat member)
  | qmark => rfl

/-- Placeholders are found piece by piece. -/
theorem reading_placeholderMarks (style : ParamStyle) :
    Statement.Reading (placeholderMarks style) where
  nil := by cases style <;> rfl
  cut left gap right member := by
    cases style with
    | dollar =>
        have digit : ∀ gap, isGap gap = true → Text.isDecimal gap = false :=
          Statement.outside_of_gaps (by decide)
        have sign : ∀ gap, isGap gap = true → (gap == '$') = false :=
          Statement.outside_of_gaps (by decide)
        exact numberedMarks_append_cons (digit gap member)
          (beq_eq_false_iff_ne.mp (sign gap member)) left right
    | qmark =>
        have distinct : ∀ gap, isGap gap = true → (gap == '?') = false :=
          Statement.outside_of_gaps (by decide)
        simp [placeholderMarks, distinct gap member]
  silent glue member := by
    have absent : ∀ glue ∈ Statement.connectives, style.sign ∉ glue := by
      cases style <;> decide
    exact placeholderMarks_of_not_mem (absent glue member)

/-- The signs that open placeholders are found piece by piece. -/
theorem reading_signs (style : ParamStyle) :
    Statement.Reading fun text => text.filter (· == style.sign) where
  toPiecewise := by
    apply Piecewise.of_filter
    intro gap member
    rw [beq_eq_false_iff_ne]
    rintro rfl
    cases style <;> exact absurd member (by decide)
  silent := by cases style <;> decide

end Safety

/-! ## Conditions -/

open Safety (placeholderMarks Unmarked countPlaceholders)

theorem ParamStyle.placeholders_eq (style : ParamStyle) (bound count : Nat) :
    style.placeholders bound count = (List.range' (bound + 1) count).map style.placeholder := by
  rw [placeholders, List.range'_eq_map_range, List.map_map]
  apply List.map_congr_left
  intro offset _
  simp only [Function.comp_apply]
  congr 1
  omega

namespace Condition

variable {style : ParamStyle}

/-- The condition writes no placeholders and binds no values but its own. -/
def Settled (style : ParamStyle) : Condition → Prop
  | given predicate values => Unmarked style predicate ∧ values = []
  | _ => True

/-- How many more placeholders the condition writes than it binds values. -/
def surplus (style : ParamStyle) : Condition → Int
  | given predicate values => countPlaceholders (some style) predicate - values.length
  | _ => 0

/-- The placeholders of a settled condition go on where those before it ended. -/
theorem marks_render (condition : Condition) (settled : condition.Settled style)
    (plain : ∀ column ∈ condition.columns, style.sign ∉ column) (bound : Nat) :
    placeholderMarks style (condition.render style bound) =
      (List.range' (bound + 1) condition.parameters.length).map style.mark := by
  have reading := Safety.reading_placeholderMarks style
  cases condition with
  | equals column value =>
      rw [reading.read_equals, Safety.placeholderMarks_placeholder,
        Safety.placeholderMarks_of_not_mem (plain column (by simp [columns]))]
      rfl
  | given predicate values =>
      obtain ⟨unmarked, rfl⟩ := settled
      simpa [render, parameters] using Safety.placeholderMarks_eq_nil_iff.mpr unmarked
  | among column values =>
      rw [reading.read_among, style.placeholders_eq,
        Safety.placeholderMarks_of_not_mem (plain column (by simp [columns])),
        List.nil_append, List.flatMap_map]
      simp [Safety.placeholderMarks_placeholder, parameters, ← List.map_eq_flatMap]

theorem length_marks_render {condition : Condition}
    (plain : ∀ column ∈ condition.columns, style.sign ∉ column) (bound : Nat) :
    ((placeholderMarks style (condition.render style bound)).length : Int) =
      condition.parameters.length + condition.surplus style := by
  cases condition with
  | equals column value =>
      rw [marks_render (.equals column value) trivial plain]
      simp [surplus]
  | given predicate values =>
      rw [render, parameters, surplus, Safety.countPlaceholders_eq_length]
      omega
  | among column values =>
      rw [marks_render (.among column values) trivial plain]
      simp [surplus]

/-- The placeholders of settled conditions count up, whatever was bound before. -/
theorem marks_renderAll {conditions : List Condition}
    (settled : ∀ condition ∈ conditions, condition.Settled style)
    (plain : ∀ condition ∈ conditions, ∀ column ∈ condition.columns, style.sign ∉ column)
    (bound : Nat) :
    (renderAll style bound conditions).flatMap (placeholderMarks style) =
      (List.range' (bound + 1) (conditions.flatMap (·.parameters)).length).map
        style.mark := by
  induction conditions generalizing bound with
  | nil => rfl
  | cons condition rest ih =>
      have first := marks_render condition (settled condition (by simp)) (plain condition (by simp))
        bound
      have others := ih (fun other member => settled other (by simp [member]))
        (fun other member => plain other (by simp [member]))
        (bound + condition.parameters.length)
      rw [renderAll, List.flatMap_cons, first, others, ← List.map_append,
        List.flatMap_cons, List.length_append, Nat.add_right_comm, List.range'_append_1]

theorem length_marks_renderAll {conditions : List Condition}
    (plain : ∀ condition ∈ conditions, ∀ column ∈ condition.columns, style.sign ∉ column)
    (bound : Nat) :
    (((renderAll style bound conditions).flatMap (placeholderMarks style)).length : Int) =
      (conditions.flatMap (·.parameters)).length +
        (conditions.map (·.surplus style)).sum := by
  induction conditions generalizing bound with
  | nil => rfl
  | cons condition rest ih =>
      have first := length_marks_render (plain condition (by simp)) bound
      have others := ih (fun other member => plain other (by simp [member]))
        (bound + condition.parameters.length)
      simp only [renderAll, List.flatMap_cons, List.length_append, List.map_cons,
        List.sum_cons]
      omega

end Condition

/-! ## Whole statements -/

namespace Vocabulary.WellFormed

variable {vocabulary : Vocabulary}

theorem sign_not_mem_written (wellFormed : vocabulary.WellFormed) (style : ParamStyle)
    {name : Text} (written : Written vocabulary name) : style.sign ∉ name := by
  intro member
  have part := wellFormed.parts_of_written written style.sign member
  cases style <;> exact absurd part (by decide)

theorem sign_not_mem_columns (wellFormed : vocabulary.WellFormed) (style : ParamStyle)
    (intent : Intent) :
    ∀ condition ∈ intent.conditions vocabulary.schema, ∀ column ∈ condition.columns,
      style.sign ∉ column :=
  fun _ member _ named =>
    wellFormed.sign_not_mem_written style (written_conditionColumn member named)

/-- The placeholders of a statement are those of its conditions. -/
theorem marks_sql (wellFormed : vocabulary.WellFormed) (style : ParamStyle)
    (intent : Intent) :
    placeholderMarks style (assemble vocabulary style intent).sql =
      (Condition.renderAll style 0 (intent.conditions vocabulary.schema)).flatMap
        (placeholderMarks style) :=
  wellFormed.read_sql (Safety.reading_placeholderMarks style)
    (fun _ written =>
      Safety.placeholderMarks_of_not_mem (wellFormed.sign_not_mem_written style written))
    (by cases style <;> decide) style intent

/-- Outside the conditions no placeholder is even begun. -/
theorem exists_around_filters (wellFormed : vocabulary.WellFormed) (style : ParamStyle)
    (intent : Intent) :
    ∃ before after, style.sign ∉ before ∧ style.sign ∉ after ∧
      (assemble vocabulary style intent).sql = before ++ (Text.join "\n  AND "
        (Condition.renderAll style 0 (intent.conditions vocabulary.schema)) ++ after) := by
  have reading := Safety.reading_signs style
  obtain ⟨before, after, parted⟩ :=
    Statement.exists_around_conditions (intent.statement vocabulary)
  have signs := wellFormed.read_sql reading
    (fun _ written => Safety.filter_beq_eq_nil_iff.mpr
      (wellFormed.sign_not_mem_written style written))
    (by cases style <;> decide) style intent
  have joined := reading.join (reading.silent "\n  AND " (by decide)) rfl rfl
    (Condition.renderAll style 0 (intent.conditions vocabulary.schema))
  have whole : (assemble vocabulary style intent).sql = before ++ (Text.join "\n  AND "
      (Condition.renderAll style 0 (intent.conditions vocabulary.schema)) ++ after) :=
    parted style
  rw [whole, ← joined, List.filter_append, List.filter_append] at signs
  -- The conditions hold as many signs as the whole, so none is left for the rest.
  have lengths := congrArg List.length signs
  simp only [List.length_append] at lengths
  have noneBefore : before.filter (· == style.sign) = [] :=
    List.eq_nil_of_length_eq_zero (by omega)
  have noneAfter : after.filter (· == style.sign) = [] :=
    List.eq_nil_of_length_eq_zero (by omega)
  exact ⟨before, after, Safety.filter_beq_eq_nil_iff.mp noneBefore,
    Safety.filter_beq_eq_nil_iff.mp noneAfter, whole⟩

end Vocabulary.WellFormed

/-! ## Placeholders against parameters -/

namespace Intent

/-- The filters of an intent whose date condition binds no values.  The department is
the first parameter, and the metrics take the parameters from there on. -/
def filters (contract : SchemaContract) (style : ParamStyle) (intent : Intent) : List Text :=
  let first := if intent.department.isSome then 2 else 1
  (if intent.department.isSome then
    [contract.dimension.column contract.dimension.code ++ " = " ++ style.placeholder 1]
  else []) ++
  (if intent.dateRange.predicate.isEmpty then [] else [intent.dateRange.predicate]) ++
  (if intent.metrics.isEmpty then []
  else
    [contract.fact.column contract.fact.metricName ++ " IN (" ++
      Text.join ", " ((List.range' first intent.metrics.length).map style.placeholder) ++
      ")"])

theorem parameters_conditions (contract : SchemaContract) (intent : Intent) :
    (intent.conditions contract).flatMap (·.parameters) =
      (intent.department.map Tagged.tag).toList ++
        (if intent.dateRange.predicate = [] then [] else intent.dateRange.boundParams) ++
        intent.metrics := by
  have department : (intent.department.map fun department =>
        Condition.equals (contract.dimension.column contract.dimension.code)
          (Tagged.tag department)).toList.flatMap (·.parameters) =
      (intent.department.map Tagged.tag).toList := by
    cases intent.department <;> rfl
  simp only [conditions, List.flatMap_append, department, List.isEmpty_iff]
  congr 1
  · split <;> simp [Condition.parameters]
  · split
    next empty => simp [empty]
    next => simp [Condition.parameters]

theorem surplus_conditions (contract : SchemaContract) (style : ParamStyle)
    (intent : Intent) :
    ((intent.conditions contract).map (·.surplus style)).sum =
      if intent.dateRange.predicate = [] then 0
      else (countPlaceholders (some style) intent.dateRange.predicate : Int) -
        intent.dateRange.boundParams.length := by
  have department : ((intent.department.map fun department =>
        Condition.equals (contract.dimension.column contract.dimension.code)
          (Tagged.tag department)).toList.map (·.surplus style)).sum = 0 := by
    cases intent.department <;> rfl
  simp only [conditions, List.map_append, List.sum_append, department, List.isEmpty_iff]
  split <;> split <;> simp [Condition.surplus]

theorem settled_conditions (contract : SchemaContract) {style : ParamStyle} {intent : Intent}
    (settled : intent.dateRange.predicate ≠ [] →
      Unmarked style intent.dateRange.predicate ∧ intent.dateRange.boundParams = []) :
    ∀ condition ∈ intent.conditions contract, condition.Settled style := by
  intro condition member
  rcases mem_conditions member with ⟨department, rfl⟩ | ⟨present, rfl⟩ | rfl
  · trivial
  · exact settled present
  · trivial

theorem renderAll_conditions (contract : SchemaContract) (style : ParamStyle)
    {intent : Intent} (unbound : intent.dateRange.boundParams = []) :
    Condition.renderAll style 0 (intent.conditions contract) =
      intent.filters contract style := by
  obtain ⟨department, ⟨kind, predicate, boundParams⟩, aggregation, metrics, comparison, limit⟩ :=
    intent
  obtain rfl : boundParams = [] := unbound
  cases department <;> cases predicate <;> cases metrics <;>
    simp only [conditions, filters, Condition.renderAll, Condition.render,
      Condition.parameters, ParamStyle.placeholders_eq, Option.map_none, Option.map_some,
      Option.toList_none, Option.toList_some, Option.isSome_none, Option.isSome_some,
      List.isEmpty_nil, List.isEmpty_cons, List.nil_append, List.append_nil,
      List.cons_append, List.length_nil, List.length_singleton, Bool.false_eq_true, if_true,
      if_false, Nat.zero_add, Nat.add_zero]

end Intent

/-- Parameters are bound in the order department, date window, metrics, and a statement
has as many more placeholders than parameters as its date condition brings along.  If the
date condition brings none, the placeholders count up from one, and each stands in the
filter that its parameter belongs to. -/
theorem placeholders_match_parameters {raw : Value} {vocabulary : Vocabulary}
    (accepted : Vocabulary.read raw = .ok vocabulary) (style : ParamStyle)
    (intent : Intent) :
    let assembled := assemble vocabulary style intent
    let predicate := intent.dateRange.predicate
    let boundParams := intent.dateRange.boundParams
    assembled.parameters =
        (intent.department.map Tagged.tag).toList ++
          (if predicate = [] then [] else boundParams) ++ intent.metrics ∧
      (countPlaceholders (some style) assembled.sql : Int) - assembled.parameters.length =
        (if predicate = [] then 0
          else (countPlaceholders (some style) predicate : Int) - boundParams.length) ∧
      (boundParams = [] → Unmarked style predicate →
        countPlaceholders (some style) assembled.sql = assembled.parameters.length ∧
        (style = .dollar → Safety.numberedMarks assembled.sql =
          (List.range' 1 assembled.parameters.length).map Decimal.ofNat) ∧
        ∃ before after, style.sign ∉ before ∧ style.sign ∉ after ∧
          assembled.sql = before ++
            (Text.join "\n  AND " (intent.filters vocabulary.schema style) ++ after)) := by
  intro assembled predicate boundParams
  have wellFormed := Vocabulary.wellFormed_of_read accepted
  have plain := wellFormed.sign_not_mem_columns style intent
  have marks := wellFormed.marks_sql style intent
  have parameters : assembled.parameters =
      (intent.conditions vocabulary.schema).flatMap (·.parameters) := rfl
  refine ⟨parameters.trans (intent.parameters_conditions vocabulary.schema), ?_, ?_⟩
  · have lengths := Condition.length_marks_renderAll plain 0
    have surplus := intent.surplus_conditions vocabulary.schema style
    rw [parameters, Safety.countPlaceholders_eq_length, marks, lengths, surplus]
    rw [Int.add_comm, Int.add_sub_cancel]
  · intro unbound unmarked
    have settled := Intent.settled_conditions vocabulary.schema fun _ => ⟨unmarked, unbound⟩
    have numbered := Condition.marks_renderAll settled plain 0
    rw [← marks, ← parameters, Nat.zero_add] at numbered
    refine ⟨?_, ?_, ?_⟩
    · rw [Safety.countPlaceholders_eq_length, numbered, List.length_map, List.length_range']
    · rintro rfl
      exact numbered
    · obtain ⟨before, after, plainBefore, plainAfter, parted⟩ :=
        wellFormed.exists_around_filters style intent
      rw [Intent.renderAll_conditions vocabulary.schema style unbound] at parted
      exact ⟨before, after, plainBefore, plainAfter, parted⟩

/-- A department, a date window and two metrics. -/
def Vocabulary.sampleIntent : Intent where
  department := some .hr
  dateRange := { kind := .q1, predicate := "r.taken_on < 4" }
  metrics := ["rain", "snow"]

theorem placeholders_match_sample_parameters :
    (assemble Vocabulary.sampleVocabulary .dollar Vocabulary.sampleIntent).parameters =
        ["hr".toList, "rain".toList, "snow".toList] ∧
      Safety.numberedMarks
          (assemble Vocabulary.sampleVocabulary .dollar Vocabulary.sampleIntent).sql =
        ["1".toList, "2".toList, "3".toList] := by
  obtain ⟨parameters, -, settled⟩ := placeholders_match_parameters
    Vocabulary.read_sampleSource .dollar Vocabulary.sampleIntent
  obtain ⟨-, numbered, -⟩ := settled rfl (Safety.numberedMarks_eq_nil_iff.mp (by decide))
  exact ⟨parameters, numbered rfl⟩

end Inquiry
