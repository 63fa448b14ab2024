import Inquiry.Proofs.Safety.Bundled
import Inquiry.Proofs.Safety.Table
import Inquiry.Proofs.Statement.Layout

/-!
# Assembled statements at the gate

Under the bundled vocabulary the safety gate has nothing to refuse in a statement
that was assembled from an intent.

What the gate looks at is stripped of blanks at its ends, and the only such blank
is the one before a direction that is not written.
-/

namespace Inquiry

open Statement (isGap)
open Vocabulary (bundled)

/-! ## The ends of a statement -/

section Ends

variable (style : ParamStyle) (intent : Intent)

/-- What a statement is made of but for its conditions' text: the selected columns, and
the two tables. -/
theorem unlimited_eq_lines :
    (intent.statement bundled).unlimited.render style =
      "SELECT\n  ".toList ++
        Text.join ",\n  " ((intent.statement bundled).items.map (·.render)) ++ "\n".toList ++
        (Statement.fromLine Vocabulary.bundledSchema ++ "\n" ++
          Statement.joinLine Vocabulary.bundledSchema ++ "\n") ++
        (intent.statement bundled).laterLines style :=
  Statement.render_eq_lines (intent.items_ne_nil bundled)

/-- The key that the rows are ordered by ends with a letter. -/
theorem ends_orderKey (kind : AggregationKind) (comparison : Comparison) :
    (Intent.orderKey bundled.schema (bundled.aggregation? kind) comparison).render ≠ [] ∧
      (Intent.orderKey bundled.schema (bundled.aggregation? kind)
        comparison).render.getLast?.any Text.isBlank = false := by
  have all : ∀ ranking, (Intent.orderKey bundled.schema (bundled.aggregation? kind)
        { kind := ranking }).render ≠ [] ∧
      (Intent.orderKey bundled.schema (bundled.aggregation? kind)
        { kind := ranking }).render.getLast?.any Text.isBlank = false := by
    intro ranking
    cases kind <;> cases ranking <;> decide
  exact all comparison.kind

end Ends

/-- Only a direction that is not written leaves a blank at the end. -/
theorem exists_pad_of_direction {front key : Text} (nonempty : key ≠ [])
    (ends : key.getLast?.any Text.isBlank = false) (direction : SortDirection)
    (begins : (front ++ key ++ " " ++ Tagged.tag direction).head?.any Text.isBlank = false) :
    ∃ pad, (pad = [] ∨ pad = [' ']) ∧ front ++ key ++ " " ++ Tagged.tag direction =
      Text.strip (front ++ key ++ " " ++ Tagged.tag direction) ++ pad := by
  have inhabited : front ++ key ≠ [] := List.append_ne_nil_of_right_ne_nil _ nonempty
  cases direction with
  | unsorted =>
      have first : (front ++ key).head?.any Text.isBlank = false := by
        rwa [List.append_assoc (front ++ key), List.head?_append_of_ne_nil _ inhabited] at begins
      have last : (front ++ key).getLast?.any Text.isBlank = false := by
        rwa [List.getLast?_append_of_ne_nil _ nonempty]
      refine ⟨[' '], .inr rfl, ?_⟩
      change front ++ key ++ [' '] ++ [] = Text.strip (front ++ key ++ [' '] ++ []) ++ [' ']
      rw [List.append_nil, Text.strip_concat (by decide) inhabited first,
        Text.strip_eq_self first last]
  | ascending =>
      refine ⟨[], .inl rfl, ?_⟩
      rw [Text.strip_eq_self begins, List.append_nil]
      rw [List.getLast?_append_of_ne_nil _ (by decide)]
      decide
  | descending =>
      refine ⟨[], .inl rfl, ?_⟩
      rw [Text.strip_eq_self begins, List.append_nil]
      rw [List.getLast?_append_of_ne_nil _ (by decide)]
      decide

variable {style : ParamStyle} {intent : Intent}

theorem strip_of_limit {limit : Nat} (limited : (intent.statement bundled).limit = some limit) :
    Text.strip (assemble bundled style intent).sql = (assemble bundled style intent).sql := by
  apply Text.strip_eq_self (begins_sql bundled style intent)
  change ((intent.statement bundled).render style).getLast?.any _ = _
  rw [Statement.render_unlimited, limited, Option.elim_some, ← List.append_assoc,
    List.getLast?_append_of_ne_nil _ (Decimal.ofNat_ne_nil limit)]
  exact Text.getLast?_of_outside fun c member =>
    Safety.isBlank_of_isDigit (Decimal.isDigit_of_mem_ofNat member)

theorem sql_of_not_limited (style : ParamStyle)
    (limited : (intent.statement bundled).limit = none) :
    (assemble bundled style intent).sql =
      (intent.statement bundled).unlimited.render style := by
  change (intent.statement bundled).render style = _
  rw [Statement.render_unlimited, limited, Option.elim_none, List.append_nil]

theorem exists_pad (style : ParamStyle) (intent : Intent) : ∃ pad, (pad = [] ∨ pad = [' ']) ∧
    (assemble bundled style intent).sql =
      Text.strip (assemble bundled style intent).sql ++ pad := by
  cases limited : (intent.statement bundled).limit with
  | some limit => exact ⟨[], .inl rfl, by rw [strip_of_limit limited, List.append_nil]⟩
  | none =>
      have begins := begins_sql bundled style intent
      obtain ⟨nonempty, ends⟩ := ends_orderKey intent.aggregation.kind intent.comparison
      obtain ⟨before, ordered⟩ := Statement.exists_order style (intent.statement bundled)
      rw [sql_of_not_limited style limited, ordered] at begins ⊢
      exact exists_pad_of_direction nonempty ends _ begins

/-! ## The tables of a statement -/

/-- Of the two source lines each names its table. -/
theorem tablesFrom_source (rest : Text) :
    Safety.tablesFrom true 0 (Statement.fromLine Vocabulary.bundledSchema ++ "\n" ++
        Statement.joinLine Vocabulary.bundledSchema ++ "\n" ++ rest) =
      "metrics".toList :: "departments".toList :: Safety.tablesFrom true 0 rest := by
  have lines : Statement.fromLine Vocabulary.bundledSchema ++ "\n" ++
      Statement.joinLine Vocabulary.bundledSchema ++ "\n" =
      'F' :: ("ROM metrics".toList ++ (" AS m\n".toList ++
        'I' :: ("NNER JOIN departments".toList ++
          " AS d ON m.department_id = d.id\n".toList))) := by
    decide +kernel
  have first : ∀ after, Safety.tablesFrom true 0
      ('F' :: ("ROM metrics".toList ++ (" AS m\n".toList ++ after))) =
        "metrics".toList :: Safety.tablesFrom true 0 after := by
    intro after
    rw [Safety.tablesFrom_name "metrics" rfl, Safety.tablesFrom_append (by decide)]
    rfl
  have second : ∀ after, Safety.tablesFrom true 0 ('I' :: ("NNER JOIN departments".toList ++
      (" AS d ON m.department_id = d.id\n".toList ++ after))) =
        "departments".toList :: Safety.tablesFrom true 0 after := by
    intro after
    rw [Safety.tablesFrom_name "departments" rfl,
      Safety.tablesFrom_append (by decide)]
    rfl
  rw [lines, ← second, ← first]
  simp only [List.cons_append, List.append_assoc]

theorem calm_select (intent : Intent) :
    Safety.calm true ("SELECT\n  ".toList ++
      Text.join ",\n  " ((intent.statement bundled).items.map (·.render))) = true := by
  have all : ∀ (kind : AggregationKind) (filtered : Bool),
      Safety.calm true ("SELECT\n  ".toList ++ Text.join ",\n  "
        ((Intent.selectItems bundled.schema (bundled.aggregation? kind) filtered).map
          (·.render))) = true := by
    intro kind filtered
    cases kind <;> cases filtered <;> decide
  exact all _ _

/-- No window that the bundled vocabulary offers breaks a line. -/
theorem lineFeed_not_mem_predicate (offered : bundled.Offers intent.dateRange) :
    '\n' ∉ intent.dateRange.predicate := by
  rcases offered with empty | ⟨rule, listed, same⟩
  · rw [empty]
    exact List.not_mem_nil
  · rw [same]
    exact (Vocabulary.predicates_quiet rule listed).2.2.2.2.2

theorem calm_conditions (style : ParamStyle) (offered : bundled.Offers intent.dateRange) :
    ∀ line ∈ Statement.clause "WHERE " "\n  AND "
        (Condition.renderAll style 0 (intent.conditions bundled.schema)),
      Safety.calm true line = true := by
  intro line member
  have unbroken := Vocabulary.wellFormed_bundled.lineFeed_not_mem_conditions
    (lineFeed_not_mem_predicate offered) style
  simp only [Statement.clause] at member
  split at member
  · simp at member
  · have inside := Safety.calm_join_of_not_mem "\n  AND " (by decide) (by decide)
      unbroken
    have continues : Safety.endsLine true "WHERE ".toList = false := by decide
    rw [List.mem_singleton.mp member, Safety.calm_append, continues, inside]
    decide

theorem calm_laterLines (style : ParamStyle) (offered : bundled.Offers intent.dateRange) :
    Safety.calm true ((intent.statement bundled).laterLines style) = true := by
  have groups : ∀ (kind : AggregationKind) (filtered : Bool),
      ∀ line ∈ Statement.clause "GROUP BY " ", "
        (Intent.groupKeys bundled.schema (bundled.aggregation? kind) filtered),
      Safety.calm true line = true := by
    intro kind filtered
    cases kind <;> cases filtered <;> decide
  have order : ∀ (kind : AggregationKind) (ranking : ComparisonKind)
      (direction : SortDirection), Safety.calm true ("ORDER BY ".toList ++
        (Intent.orderKey bundled.schema (bundled.aggregation? kind) { kind := ranking }).render ++
        " ".toList ++ Tagged.tag direction) = true := by
    intro kind ranking direction
    cases kind <;> cases ranking <;> cases direction <;> decide
  apply Safety.calm_join
  simp only [Statement.middleClauses, List.forall_mem_append, List.forall_mem_singleton]
  exact ⟨⟨calm_conditions style offered, groups _ _⟩, order _ intent.comparison.kind _⟩

/-- Behind the selected columns a statement names its two tables, and no others. -/
theorem tables_of_lines {front later : Text} (rest : Text)
    (begins : Safety.calm true front = true)
    (peaceful : Safety.calm true later = true)
    (none : Safety.tablesFrom (Safety.endsLine true later) 0 rest = []) :
    Safety.tables (front ++ "\n" ++ (Statement.fromLine Vocabulary.bundledSchema ++ "\n" ++
        Statement.joinLine Vocabulary.bundledSchema ++ "\n") ++ (later ++ rest)) =
      ["metrics".toList, "departments".toList] := by
  have lineBreak : ∀ lineStart, Safety.calm lineStart "\n" = true := by decide
  have select : Safety.calm true (front ++ "\n") = true := by
    rw [Safety.calm_append, begins, lineBreak]
    rfl
  have ended : Safety.endsLine true (front ++ "\n") = true := Safety.endsLine_concat true front
  rw [Safety.tables, List.append_assoc, Safety.tablesFrom_append select, ended,
    tablesFrom_source, Safety.tablesFrom_append peaceful, none]

/-- The line of the row limit names no table. -/
theorem tablesFrom_limit (lineStart : Bool) (limit : Nat) :
    Safety.tablesFrom lineStart 0 ("\nLIMIT " ++ Decimal.ofNat limit) = [] := by
  have unbroken : '\n' ∉ "IMIT ".toList ++ Decimal.ofNat limit := by
    intro broken
    rcases List.mem_append.mp broken with broken | broken
    · exact absurd broken (by decide)
    · exact absurd (Decimal.isDigit_of_mem_ofNat broken) (by decide)
  have keyword : Safety.tableName? ('L' :: ("IMIT ".toList ++ Decimal.ofNat limit)) = none := rfl
  have lineBreak : Safety.calm lineStart ['\n'] = true := by
    cases lineStart <;> decide
  change Safety.tablesFrom lineStart 0
    (['\n'] ++ 'L' :: ("IMIT ".toList ++ Decimal.ofNat limit)) = []
  rw [Safety.tablesFrom_append lineBreak, show Safety.endsLine lineStart ['\n'] = true from rfl,
    Safety.tablesFrom, if_pos rfl, keyword]
  exact Safety.tablesFrom_calm (Safety.calm_of_not_mem unbroken)

/-- A blank at the end of a text is at the end of its last part. -/
theorem exists_of_pad {front later core pad : Text} (nonempty : later ≠ [])
    (small : pad = [] ∨ pad = [' ']) (padded : front ++ later = core ++ pad) :
    ∃ kept, core = front ++ kept ∧ later = kept ++ pad := by
  rcases List.append_eq_append_iff.mp padded with ⟨kept, whole, parted⟩ | ⟨excess, whole, parted⟩
  · exact ⟨kept, whole, parted⟩
  · have lengths := congrArg List.length parted
    have short : pad.length ≤ 1 := by
      rcases small with rfl | rfl <;> decide
    have long : 0 < later.length := List.length_pos_iff.mpr nonempty
    rw [List.length_append] at lengths
    obtain rfl : excess = [] := List.eq_nil_of_length_eq_zero (by omega)
    exact ⟨[], by simp [whole], parted.symm⟩

/-- What is left of a statement without its blank at the end names the two tables. -/
theorem tables_strip (offered : bundled.Offers intent.dateRange) :
    Safety.tables (Text.strip (assemble bundled style intent).sql) =
      ["metrics".toList, "departments".toList] := by
  have lines := unlimited_eq_lines style intent
  have begins := calm_select intent
  have peaceful := calm_laterLines style offered
  cases limited : (intent.statement bundled).limit with
  | some limit =>
      rw [strip_of_limit limited]
      change Safety.tables ((intent.statement bundled).render style) = _
      rw [Statement.render_unlimited, limited, Option.elim_some, lines, List.append_assoc]
      exact tables_of_lines _ begins peaceful (tablesFrom_limit _ limit)
  | none =>
      obtain ⟨pad, small, padded⟩ := exists_pad style intent
      rw [sql_of_not_limited style limited] at padded ⊢
      generalize Text.strip ((intent.statement bundled).unlimited.render style) = core at padded ⊢
      rw [lines] at padded
      obtain ⟨kept, rfl, later⟩ :=
        exists_of_pad (Statement.laterLines_ne_nil style _) small padded
      rw [later, Safety.calm_append, Bool.and_eq_true] at peaceful
      have named := tables_of_lines [] begins peaceful.1 rfl
      rwa [List.append_nil] at named

/-! ## The checks one by one -/

theorem read_strip {β : Type} {read : Text → List β} (piecewise : Piecewise read)
    (style : ParamStyle) (intent : Intent) :
    read (Text.strip (assemble bundled style intent).sql) =
      read (assemble bundled style intent).sql := by
  obtain ⟨pad, small, padded⟩ := exists_pad style intent
  rcases small with rfl | rfl
  · rw [List.append_nil] at padded
    rw [← padded]
  · have padding := piecewise.concat (show isGap ' ' = true by decide)
      (Text.strip (assemble bundled style intent).sql)
    rw [← padding, ← padded]

/-- A row limit that is written is at most the maximum. -/
theorem le_of_writtenLimit {given maximum limit : Nat}
    (written : writtenLimit? given maximum = some limit) : limit ≤ maximum := by
  simp only [writtenLimit?] at written
  split at written
  · cases written
  next within =>
    cases written
    omega

theorem limitViolations_strip (offered : bundled.Offers intent.dateRange) :
    Safety.limitViolations bundled.limits.maximum
      (Text.strip (assemble bundled style intent).sql) = .ok [] := by
  have silent : Safety.keywordsIn [Safety.limitKeyword]
      ((intent.statement bundled).unlimited.render style) = [] :=
    Safety.keywordsIn_of_subset (by simp [Safety.gateKeywords])
      (Safety.keywordsIn_of_silent (Vocabulary.alarms_unlimited style offered))
  cases limited : (intent.statement bundled).limit with
  | none =>
      rw [← sql_of_not_limited style limited,
        ← read_strip (Safety.piecewise_keywordsIn _)] at silent
      rw [Safety.limitViolations, Safety.hasLimit_eq_false silent]
      rfl
  | some limit =>
      have final : Safety.finalLimit? (assemble bundled style intent).sql =
          some (Decimal.ofNat limit) := by
        change Safety.finalLimit? ((intent.statement bundled).render style) = _
        rw [Statement.render_unlimited, limited, Option.elim_some, ← List.append_assoc]
        exact Safety.finalLimit_append silent (Decimal.ofNat_ne_nil limit) fun c member =>
          Safety.isBlank_of_isDigit (Decimal.isDigit_of_mem_ofNat member)
      have within : limit ≤ bundled.limits.maximum := le_of_writtenLimit limited
      have small : limit < 10 ^ Decimal.digitLimit :=
        calc limit ≤ 1000 := within
          _ < 10 ^ 4 := by decide
          _ ≤ 10 ^ Decimal.digitLimit := Nat.pow_le_pow_right (by decide) (by decide)
      rw [strip_of_limit limited, Safety.limitViolations, final]
      simp only [Option.getD_some, Decimal.isPlain_ofNat, Decimal.readNat_ofNat, if_pos small,
        if_neg (Nat.not_lt.mpr within), Bool.not_true, Bool.false_eq_true, if_false, ite_self]

/-- The placeholders count up to the number of parameters. -/
theorem marks_strip (style : ParamStyle) (offered : bundled.Offers intent.dateRange) :
    Safety.placeholderMarks style (Text.strip (assemble bundled style intent).sql) =
      (List.range' 1 (assemble bundled style intent).parameters.length).map style.mark := by
  have wellFormed := Vocabulary.wellFormed_bundled
  have settled : ∀ condition ∈ intent.conditions bundled.schema, condition.Settled style := by
    apply Intent.settled_conditions
    intro present
    rcases offered with empty | ⟨rule, listed, same⟩
    · exact absurd empty present
    · obtain ⟨-, -, -, dollar, question, -⟩ := Vocabulary.predicates_quiet rule listed
      have absent : style.sign ∉ rule.predicate := by
        cases style
        · exact dollar
        · exact question
      rw [same]
      exact ⟨Safety.placeholderMarks_eq_nil_iff.mp (Safety.placeholderMarks_of_not_mem absent),
        rfl⟩
  rw [read_strip (Safety.reading_placeholderMarks style).toPiecewise,
    wellFormed.marks_sql, Condition.marks_renderAll settled
      (wellFormed.sign_not_mem_columns style intent)]
  rfl

/-- Placeholders that count up are read as numbers as long as none has too many digits. -/
theorem placeholderNumbers_eq_ok {text : Text} {count : Nat}
    (numbered : Safety.numberedMarks text = (List.range' 1 count).map Decimal.ofNat)
    (small : count < 10 ^ Decimal.digitLimit) :
    Safety.placeholderNumbers text = .ok (List.range' 1 count) := by
  rw [Safety.placeholderNumbers, numbered]
  apply Outcome.mapM_map_eq_ok
  intro position member
  have within : position < 10 ^ Decimal.digitLimit := by
    have bounds := List.mem_range'_1.mp member
    omega
  rw [Decimal.readNat_ofNat, if_pos within]
  rfl

theorem lt_of_placeholderNumbers {text : Text} {count : Nat} {numbers : List Nat}
    (numbered : Safety.numberedMarks text = (List.range' 1 count).map Decimal.ofNat)
    (success : Safety.placeholderNumbers text = .ok numbers) :
    count < 10 ^ Decimal.digitLimit := by
  by_contra large
  have positive : 0 < 10 ^ Decimal.digitLimit := Nat.pow_pos (by decide)
  have last : Decimal.ofNat count ∈ Safety.numberedMarks text := by
    rw [numbered]
    exact List.mem_map.mpr ⟨count, List.mem_range'_1.mpr (by omega), rfl⟩
  obtain ⟨number, -, read⟩ := Outcome.exists_mem_of_mapM success last
  rw [Outcome.mapError_eq_ok, Decimal.readNat_ofNat, if_neg large] at read
  cases read

theorem parameterViolations_texts (position : Nat) (parameters : List Text) :
    Safety.parameterViolations position (parameters.map .text) = [] := by
  induction parameters generalizing position with
  | nil => rfl
  | cons parameter rest ih => exact ih (position + 1)

theorem foreignTables_strip (offered : bundled.Offers intent.dateRange) :
    Safety.foreignTables bundled.schema
      (Text.strip (assemble bundled style intent).sql) = [] := by
  rw [Safety.foreignTables, tables_strip offered]
  decide +kernel

theorem isSelect_strip (style : ParamStyle) (intent : Intent) :
    Safety.isSelect (Text.strip (assemble bundled style intent).sql) = true := by
  obtain ⟨rest, selected⟩ := exists_select bundled style intent
  obtain ⟨pad, small, padded⟩ := exists_pad style intent
  generalize Text.strip (assemble bundled style intent).sql = core at padded ⊢
  have short : pad.length ≤ 1 := by
    rcases small with rfl | rfl <;> decide
  have lengths := congrArg List.length (selected.symm.trans padded)
  have long : "SELECT".toList.length ≤ core.length := by
    have keyword : "SELECT\n  ".toList.length = 9 := by decide
    have word : "SELECT".toList.length = 6 := by decide
    rw [List.length_append, List.length_append, keyword] at lengths
    omega
  have begins : "SELECT".toList <+: (assemble bundled style intent).sql := by
    rw [selected]
    exact ⟨"\n  ".toList ++ rest, rfl⟩
  obtain ⟨after, rfl⟩ := List.prefix_of_prefix_length_le begins ⟨pad, padded.symm⟩ long
  have capitals : Text.upper "SELECT" = "SELECT".toList := by decide
  rw [Safety.isSelect, Text.upper, List.flatMap_append, ← Text.upper, capitals,
    List.isPrefixOf_iff_prefix]
  exact List.prefix_append _ _

/-- What the gate listens for is not in the statement. -/
theorem silent_strip (style : ParamStyle) (offered : bundled.Offers intent.dateRange) :
    Safety.alarms Safety.dangerousKeywords
      (Text.strip (assemble bundled style intent).sql) = [] := by
  rw [read_strip (Safety.piecewise_alarms _), Vocabulary.alarms_sql offered]

/-- Only the placeholders are left to be judged. -/
theorem check_assembled_eq (offered : bundled.Offers intent.dateRange) :
    Safety.check bundled (some style) (assemble bundled style intent).sql
        ((assemble bundled style intent).parameters.map .text) =
      Safety.placeholderViolations (some style)
        (Text.strip (assemble bundled style intent).sql)
        ((assemble bundled style intent).parameters.map .text) := by
  have silent := silent_strip style offered
  obtain ⟨separator, star, dashes⟩ := Safety.marks_of_silent silent
  have inline : Text.occurs "--" (Text.strip (assemble bundled style intent).sql) = false := by
    rwa [← Bool.not_eq_true, Text.occurs_iff]
  have block : Text.occurs "/*" (Text.strip (assemble bundled style intent).sql) = false := by
    rw [← Bool.not_eq_true, Text.occurs_iff]
    exact fun within => star (within.subset (by decide))
  rw [Safety.check, limitViolations_strip offered, isSelect_strip,
    Safety.selectsStar_eq_false star, inline, block, foreignTables_strip offered,
    Safety.dangerous_eq_none (Safety.keywordsIn_of_silent silent), parameterViolations_texts,
    List.contains_eq_mem, decide_eq_false separator]
  cases Safety.placeholderViolations (some style)
      (Text.strip (assemble bundled style intent).sql)
      ((assemble bundled style intent).parameters.map .text) with
  | error fault => rfl
  | ok violations => exact congrArg Except.ok (List.append_nil violations)

/-- The gate accepts whatever is assembled under the bundled vocabulary.  Only numbered
placeholders with more digits than are read as a number would stop it, and it takes
`10 ^ digitLimit` parameters to write one. -/
theorem check_assembled_eq_ok_iff (style : ParamStyle) {intent : Intent}
    (offered : bundled.Offers intent.dateRange) :
    Safety.check bundled (some style) (assemble bundled style intent).sql
        ((assemble bundled style intent).parameters.map .text) = .ok [] ↔
      (style = .dollar →
        (assemble bundled style intent).parameters.length < 10 ^ Decimal.digitLimit) := by
  have marks := marks_strip style offered
  have count : Safety.countPlaceholders (some style)
      (Text.strip (assemble bundled style intent).sql) =
        ((assemble bundled style intent).parameters.map Value.text).length := by
    rw [Safety.countPlaceholders_eq_length, marks, List.length_map, List.length_range',
      List.length_map]
  rw [check_assembled_eq offered, Safety.placeholderViolations]
  simp only [count, ne_eq, not_true_eq_false, if_false]
  cases style with
  | qmark => simp
  | dollar =>
      simp only [if_true, true_implies]
      constructor
      · intro success
        obtain ⟨numbers, read, -⟩ := Outcome.bind_eq_ok.mp success
        exact lt_of_placeholderNumbers marks read
      · intro small
        rw [placeholderNumbers_eq_ok marks small]
        simp [bind, Except.bind, pure, Except.pure]

/-- The best sales metrics of the fourth quarter. -/
def Vocabulary.bundledIntent : Intent where
  department := some .sales
  dateRange := { kind := .q4, predicate := Vocabulary.quarterPredicate "4" }
  metrics := ["total_pipeline"]
  comparison := { kind := .top, direction := .descending }
  limit := 5

theorem check_bundledIntent :
    Safety.check bundled (some .dollar)
      (assemble bundled .dollar Vocabulary.bundledIntent).sql
      ((assemble bundled .dollar Vocabulary.bundledIntent).parameters.map .text) = .ok [] := by
  have offered : bundled.Offers Vocabulary.bundledIntent.dateRange :=
    .inr ⟨_, List.mem_cons_self, rfl⟩
  have small : 2 < 10 ^ Decimal.digitLimit :=
    calc 2 < 10 ^ 1 := by decide
      _ ≤ 10 ^ Decimal.digitLimit := Nat.pow_le_pow_right (by decide) (by decide)
  exact (check_assembled_eq_ok_iff .dollar offered).mpr fun _ => small

end Inquiry
