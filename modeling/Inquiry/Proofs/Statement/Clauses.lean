import Inquiry.Proofs.Statement.Resolution

/-!
# Clauses

The lines of a statement that begin with no blank are its clauses, in one order.  The select
list, the group keys and the order of the rows are read back from the text.

A statement that summarises groups its rows by every column that it selects without a call.  One
that lists rows calls no function, and orders its rows by a column that it selects.
-/

namespace Inquiry

open Statement (isNamePart)

namespace Text

/-- What stands before the first occurrence of the needle; the whole text if there is none. -/
def before (needle : Text) : Text → Text
  | [] => []
  | c :: rest => if needle.isPrefixOf (c :: rest) then [] else c :: before needle rest

/-- The line is the word, or goes on behind the word with a blank. -/
def BeginsWith (word line : Text) : Prop :=
  line = word ∨ word ++ [' '] <+: line

variable {c : Char} {needle text : Text}

theorem before_of_not_mem (absent : c ∉ text) : before (c :: needle) text = text := by
  induction text with
  | nil => rfl
  | cons d rest ih =>
      obtain ⟨distinct, later⟩ := List.ne_and_not_mem_of_not_mem_cons absent
      rw [before, ih later, List.isPrefixOf_cons_cons, beq_false_of_ne distinct, Bool.false_and,
        if_neg Bool.false_ne_true]

theorem before_append (absent : c ∉ text) (rest : Text) :
    before (c :: needle) (text ++ (c :: needle ++ rest)) = text := by
  induction text with
  | nil => simp [before]
  | cons d later ih =>
      obtain ⟨distinct, others⟩ := List.ne_and_not_mem_of_not_mem_cons absent
      rw [List.cons_append, before, ih others, List.isPrefixOf_cons_cons,
        beq_false_of_ne distinct, Bool.false_and, if_neg Bool.false_ne_true]

theorem beginsWith_of_keyword {keyword word line : Text} (spelled : keyword = word ++ [' '])
    (begins : keyword <+: line) : BeginsWith word line :=
  .inr (spelled ▸ begins)

end Text

namespace Statement

/-! ## Reading a statement -/

/-- The line begins with no blank. -/
def opensClause (line : Text) : Bool :=
  line.head? != some ' '

/-- The lines of a text that begin with no blank. -/
def clauseLines (sql : Text) : List Text :=
  (Text.pieces '\n' sql).filter opensClause

/-- An item of a select list, without its indent and the comma behind it. -/
def itemOfLine (line : Text) : Text :=
  let item := line.drop 2
  if item.getLast? = some ',' then item.dropLast else item

/-- The items of the select list. -/
def selectList (sql : Text) : List Text :=
  (selectLines sql).map itemOfLine

/-- An item of a select list without its output name. -/
def unnamed (item : Text) : Text :=
  Text.before " AS " item

/-- The columns that a statement groups by. -/
def groupedBy (sql : Text) : List Text :=
  ((clauseLines sql).filterMap fun line => line.dropPrefix? "GROUP BY ".toList).flatMap
    fun keys => (Text.pieces ',' keys).map fun key => key.dropWhile (· == ' ')

/-- The text is one call of an aggregate function. -/
def IsCall (text : Text) : Prop :=
  ∃ (function : AggregateFunction) (argument : Text), '(' ∉ argument ∧ ')' ∉ argument ∧
    text = Tagged.tag function ++ "(" ++ argument ++ ")"

/-- A call of an aggregate function begins somewhere in the text. -/
def HoldsCall (text : Text) : Prop :=
  ∃ function : AggregateFunction, Tagged.tag function ++ ['('] <:+: text

/-- The words that the clauses begin with, in their fixed order. -/
def clauseWords (filtered grouped limited : Bool) : List Text :=
  ["SELECT".toList, "FROM".toList, "INNER JOIN".toList] ++
    (if filtered then ["WHERE".toList] else []) ++
    (if grouped then ["GROUP BY".toList] else []) ++
    ["ORDER BY".toList] ++
    if limited then ["LIMIT".toList] else []

/-! ## Reading lines -/

theorem itemOfLine_indented {item : Text} (uncut : ',' ∉ item) :
    itemOfLine ("  ".toList ++ item) = item := by
  have kept : ("  ".toList ++ item).drop 2 = item := rfl
  have last : item.getLast? ≠ some ',' :=
    fun comma => uncut (List.mem_of_getLast? comma)
  rw [itemOfLine, kept, if_neg last]

theorem itemOfLine_comma (item : Text) : itemOfLine ("  ".toList ++ item ++ [',']) = item := by
  have kept : ("  ".toList ++ item ++ [',']).drop 2 = item ++ [','] := rfl
  rw [itemOfLine, kept, List.getLast?_concat, if_pos rfl, List.dropLast_concat]

/-- The conditions open one clause, with the first of them. -/
theorem filter_hang_conditions {texts : List Text} (unbroken : ∀ text ∈ texts, '\n' ∉ text) :
    ((clause "WHERE " "\n  AND " texts).flatMap (Text.pieces '\n')).filter opensClause =
      (texts.take 1).map fun text => "WHERE ".toList ++ text := by
  have separator : "\n  AND ".toList = [] ++ '\n' :: "  AND ".toList := by decide
  cases texts with
  | nil => rfl
  | cons first rest =>
      rw [clause, if_neg (by simp), List.flatMap_singleton, separator,
        Text.pieces_hang (by decide) List.not_mem_nil (by decide) unbroken]
      have here : opensClause ("WHERE ".toList ++ first) = true := rfl
      cases rest with
      | nil => exact List.filter_cons_of_pos here
      | cons second others =>
          -- The other conditions are indented, so that their lines open no clause.
          have later : (Text.hang "  AND " [] "  AND " (second :: others)).filter opensClause =
              [] := by
            rw [List.filter_eq_nil_iff]
            intro line member
            obtain ⟨tail, rfl⟩ | ⟨tail, rfl⟩ := Text.exists_of_mem_hang member <;>
              exact Bool.false_ne_true
          rw [Text.hang_cons_cons, List.append_nil, List.filter_cons_of_pos here, later]
          rfl

theorem dropPrefix?_of_head {keyword line : Text} {first : Char}
    (head : keyword.head? = some first) (other : line.head? ≠ some first) :
    line.dropPrefix? keyword = none := by
  cases keyword with
  | nil => cases head
  | cons c rest =>
      obtain rfl : c = first := Option.some.inj head
      cases line with
      | nil => rfl
      | cons d tail =>
          have distinct : d ≠ c := fun same => other (congrArg some same)
          rw [List.dropPrefix?, beq_false_of_ne distinct, if_neg Bool.false_ne_true]

/-- Keys without commas and blanks are read back from their list. -/
theorem map_pieces_join {keys : List Text} (nonempty : keys ≠ [])
    (whole : ∀ key ∈ keys, ',' ∉ key ∧ ' ' ∉ key) :
    (Text.pieces ',' (Text.join ", " keys)).map (fun key => key.dropWhile (· == ' ')) = keys := by
  have separator : ", ".toList = [] ++ ',' :: [' '] := by decide
  have hangs : Text.pieces ',' (Text.join ", " keys) = Text.hang [] [] [' '] keys := by
    rw [separator]
    exact Text.pieces_hang List.not_mem_nil List.not_mem_nil (by decide)
      fun key listed => (whole key listed).1
  have solid : ∀ key ∈ keys, key.dropWhile (· == ' ') = key := by
    intro key listed
    rw [List.dropWhile_eq_self_iff]
    intro inhabited blank
    exact (whole key listed).2 (beq_iff_eq.mp blank ▸ List.getElem_mem inhabited)
  have reads : (Text.hang [] [] [' '] keys).map (fun key => key.dropWhile (· == ' ')) =
      keys.map id := by
    refine Text.map_hang nonempty fun key listed start same => ?_
    rw [List.append_nil]
    rcases same with rfl | rfl <;> exact ⟨solid key listed, solid key listed⟩
  rw [hangs, reads, List.map_id]

/-! ## Plain statements -/

/-- The names of a statement hold name parts and points alone, and its conditions stay on their
lines. -/
structure IsPlain (style : ParamStyle) (statement : Statement) : Prop where
  selects : statement.items ≠ []
  namesBefore : ∀ name ∈ statement.namesBefore, ∀ c ∈ name, (isNamePart c || c == '.') = true
  namesAfter : ∀ name ∈ statement.namesAfter, ∀ c ∈ name, (isNamePart c || c == '.') = true
  conditions : ∀ text ∈ Condition.renderAll style 0 statement.conditions, '\n' ∉ text

namespace IsPlain

variable {style : ParamStyle} {statement : Statement}

theorem not_mem_before (plain : statement.IsPlain style) {c : Char}
    (outside : (isNamePart c || c == '.') = false) :
    ∀ name ∈ statement.namesBefore, c ∉ name := by
  intro name listed member
  rw [plain.namesBefore name listed c member] at outside
  cases outside

theorem not_mem_after (plain : statement.IsPlain style) {c : Char}
    (outside : (isNamePart c || c == '.') = false) :
    ∀ name ∈ statement.namesAfter, c ∉ name := by
  intro name listed member
  rw [plain.namesAfter name listed c member] at outside
  cases outside

theorem not_mem_groupKeys (plain : statement.IsPlain style) {c : Char}
    (outside : (isNamePart c || c == '.') = false) :
    ∀ key ∈ statement.groupKeys, c ∉ key :=
  fun key listed => plain.not_mem_after outside key (by simp [Statement.namesAfter, listed])

theorem not_mem_item (plain : statement.IsPlain style) {c : Char}
    (outside : (isNamePart c || c == '.') = false) {item : SelectItem}
    (listed : item ∈ statement.items) :
    (∀ name ∈ item.expression.names, c ∉ name) ∧ ∀ name ∈ item.output.toList, c ∉ name := by
  have names := plain.not_mem_before outside
  simp only [Statement.namesBefore, SelectItem.names, List.forall_mem_append,
    List.forall_mem_flatMap] at names
  exact names.1 item listed

/-! ### The select list -/

/-- The select list is read back as it was written. -/
theorem selectList_render (plain : statement.IsPlain style) :
    selectList (statement.render style) = statement.items.map (·.render) := by
  have lines := (lines_render style plain.selects (plain.not_mem_before (by decide))).1
  have uncut := not_mem_items (c := ',') (by decide) (by decide)
    (plain.not_mem_before (by decide))
  have items : statement.items.map (·.render) ≠ [] := by simpa using plain.selects
  have reads : (Text.hang "  " "," "  " (statement.items.map (·.render))).map itemOfLine =
      (statement.items.map (·.render)).map id := by
    refine Text.map_hang items fun item listed start same => ?_
    obtain rfl : start = "  ".toList := same.elim id id
    exact ⟨itemOfLine_indented (uncut item listed), itemOfLine_comma item⟩
  rw [selectList, lines, reads, List.map_id]

/-- Without its output name an item is its expression. -/
theorem unnamed_render (plain : statement.IsPlain style) {item : SelectItem}
    (listed : item ∈ statement.items) : unnamed item.render = item.expression.render := by
  have whole : ' ' ∉ item.expression.render :=
    Expression.not_mem_render (by decide) (plain.not_mem_item (by decide) listed).1
  have keyword : " AS ".toList = ' ' :: "AS ".toList := by decide
  rw [unnamed, SelectItem.render, keyword]
  cases item.output with
  | none => exact Text.before_of_not_mem whole
  | some name =>
      have regroup : item.expression.render ++ " AS ".toList ++ name =
          item.expression.render ++ (' ' :: "AS ".toList ++ name) := List.append_assoc _ _ _
      exact (congrArg _ regroup).trans (Text.before_append whole name)

/-! ### The clauses -/

/-- The clauses of a statement: what it selects and from where, its first condition, and the
clauses behind the conditions. -/
theorem clauseLines_render (plain : statement.IsPlain style) :
    clauseLines (statement.render style) =
      ["SELECT".toList, fromLine statement.contract, joinLine statement.contract] ++
        ((Condition.renderAll style 0 statement.conditions).take 1).map
          (fun text => "WHERE ".toList ++ text) ++
        statement.closingClauses := by
  have before := plain.not_mem_before (c := '\n') (by decide)
  have after := plain.not_mem_after (c := '\n') (by decide)
  have indented : (Text.hang "  " "," "  " (statement.items.map (·.render))).filter
      opensClause = [] := by
    rw [List.filter_eq_nil_iff]
    intro line member
    rw [opensClause, head?_of_mem_hang_items member]
    decide
  have source : [fromLine statement.contract, joinLine statement.contract].filter opensClause =
      [fromLine statement.contract, joinLine statement.contract] := rfl
  have closing : statement.closingClauses.filter opensClause = statement.closingClauses :=
    List.filter_eq_self.mpr fun line member =>
      bne_iff_ne.mpr (head?_ne_of_mem_closing (by decide) line member)
  have opening : (statement.openingClauses.flatMap (Text.pieces '\n')).filter opensClause =
      ["SELECT".toList, fromLine statement.contract, joinLine statement.contract] := by
    rw [flatMap_pieces_opening plain.selects before, List.filter_cons_of_pos (by decide),
      List.filter_append, indented, source, List.nil_append]
  rw [clauseLines, pieces_render, flatMap_pieces_of_not_mem (lineFeed_not_mem_closing after),
    List.filter_append, List.filter_append, opening, filter_hang_conditions plain.conditions,
    closing]

/-- The clauses begin with their words, in one order. -/
theorem forall₂_clauseLines (plain : statement.IsPlain style) :
    List.Forall₂ Text.BeginsWith
      (clauseWords (!statement.conditions.isEmpty) (!statement.groupKeys.isEmpty)
        statement.limit.isSome)
      (clauseLines (statement.render style)) := by
  have opening : List.Forall₂ Text.BeginsWith
      ["SELECT".toList, "FROM".toList, "INNER JOIN".toList]
      ["SELECT".toList, fromLine statement.contract, joinLine statement.contract] :=
    .cons (.inl rfl) (.cons (Text.beginsWith_of_keyword (by decide) (prefix_fromLine _))
      (.cons (Text.beginsWith_of_keyword (by decide) (prefix_joinLine _)) .nil))
  have filtered : List.Forall₂ Text.BeginsWith
      (if !statement.conditions.isEmpty then ["WHERE".toList] else [])
      (((Condition.renderAll style 0 statement.conditions).take 1).map
        fun text => "WHERE ".toList ++ text) := by
    cases statement.conditions with
    | nil => exact .nil
    | cons condition rest =>
        exact .cons (Text.beginsWith_of_keyword (by decide)
          (List.prefix_append "WHERE ".toList _)) .nil
  have grouped : List.Forall₂ Text.BeginsWith
      (if !statement.groupKeys.isEmpty then ["GROUP BY".toList] else [])
      (clause "GROUP BY " ", " statement.groupKeys) := by
    cases statement.groupKeys with
    | nil => exact .nil
    | cons key rest =>
        exact .cons (Text.beginsWith_of_keyword (by decide)
          (List.prefix_append "GROUP BY ".toList _)) .nil
  have ordered : List.Forall₂ Text.BeginsWith ["ORDER BY".toList] [statement.orderLine] :=
    .cons (Text.beginsWith_of_keyword (by decide) (prefix_orderLine _)) .nil
  have limited : List.Forall₂ Text.BeginsWith
      (if statement.limit.isSome then ["LIMIT".toList] else [])
      (statement.limit.map fun limit => "LIMIT ".toList ++ Decimal.ofNat limit).toList := by
    cases statement.limit with
    | none => exact .nil
    | some limit =>
        exact .cons (Text.beginsWith_of_keyword (by decide)
          (List.prefix_append "LIMIT ".toList _)) .nil
  rw [clauseLines_render plain, clauseWords, closingClauses]
  have regroup : ∀ words filters groups order limit : List Text,
      words ++ filters ++ groups ++ order ++ limit =
        words ++ filters ++ (groups ++ order ++ limit) := by
    simp only [List.append_assoc, implies_true]
  rw [← regroup]
  exact List.rel_append (List.rel_append (List.rel_append (List.rel_append opening filtered)
    grouped) ordered) limited

/-! ### The group keys -/

/-- Only the clause of the group keys begins with its letter. -/
theorem exists_around_groups (plain : statement.IsPlain style) :
    ∃ front back, clauseLines (statement.render style) =
        front ++ clause "GROUP BY " ", " statement.groupKeys ++ back ∧
      ∀ line ∈ front ++ back, line.head? ≠ some 'G' := by
  refine ⟨["SELECT".toList, fromLine statement.contract, joinLine statement.contract] ++
      ((Condition.renderAll style 0 statement.conditions).take 1).map
        (fun text => "WHERE ".toList ++ text),
    [statement.orderLine] ++
      (statement.limit.map fun limit => "LIMIT ".toList ++ Decimal.ofNat limit).toList, ?_, ?_⟩
  · rw [clauseLines_render plain, closingClauses]
    simp only [List.append_assoc]
  · simp only [List.forall_mem_append, List.forall_mem_cons, List.forall_mem_map]
    refine ⟨⟨⟨by decide, ?_, ?_, by simp⟩, fun text _ => ?_⟩, ⟨?_, by simp⟩, ?_⟩
    · rw [head?_of_keyword (prefix_fromLine statement.contract) rfl]
      decide
    · rw [head?_of_keyword (prefix_joinLine statement.contract) rfl]
      decide
    · exact (by decide : some 'W' ≠ some 'G')
    · rw [head?_of_keyword (prefix_orderLine statement) rfl]
      decide
    · intro line member
      obtain ⟨limit, -, rfl⟩ := Option.map_eq_some_iff.mp (Option.mem_toList.mp member)
      exact (by decide : some 'L' ≠ some 'G')

/-- The group keys are read back as they were written. -/
theorem groupedBy_render (plain : statement.IsPlain style) :
    groupedBy (statement.render style) = statement.groupKeys := by
  obtain ⟨front, back, lines, others⟩ := exists_around_groups plain
  rw [List.forall_mem_append] at others
  have silent : ∀ {lines : List Text}, (∀ line ∈ lines, line.head? ≠ some 'G') →
      lines.filterMap (fun line => line.dropPrefix? "GROUP BY ".toList) = [] := by
    intro lines other
    exact List.filterMap_eq_nil_iff.mpr fun line member =>
      dropPrefix?_of_head rfl (other line member)
  rw [groupedBy, lines, List.filterMap_append, List.filterMap_append, silent others.1,
    silent others.2, List.nil_append, List.append_nil]
  by_cases grouped : statement.groupKeys = []
  · rw [grouped]
    rfl
  · rw [clause, if_neg (by simpa using grouped), List.filterMap_cons,
      List.dropPrefix?_append_of_beq _ BEq.rfl]
    exact (List.flatMap_singleton _ _).trans (map_pieces_join grouped fun key listed =>
      ⟨plain.not_mem_groupKeys (by decide) key listed,
        plain.not_mem_groupKeys (by decide) key listed⟩)

/-- Without group keys no line is about them. -/
theorem not_grouped (plain : statement.IsPlain style) (ungrouped : statement.groupKeys = []) :
    ∀ line ∈ Text.pieces '\n' (statement.render style), ¬"GROUP BY".toList <+: line := by
  intro line member begins
  have head : line.head? = some 'G' := head?_of_keyword begins rfl
  have opens : opensClause line = true := by
    rw [opensClause, head]
    decide
  have listed : line ∈ clauseLines (statement.render style) := List.mem_filter.mpr ⟨member, opens⟩
  obtain ⟨front, back, lines, others⟩ := exists_around_groups plain
  rw [lines, ungrouped, clause, if_pos List.isEmpty_nil, List.append_nil] at listed
  exact others line listed head

end IsPlain

/-! ## Summaries and lists of rows -/

/-- What a statement must be to summarise: each of its items is a call or a group key. -/
structure Summarises (contract : SchemaContract) (intent : Intent) (rule : AggregationRule)
    (sql : Text) : Prop where
  items : ∀ item ∈ selectList sql, IsCall (unnamed item) ∨ unnamed item ∈ groupedBy sql
  keys : groupedBy sql =
    (if intent.department.isNone then [contract.dimension.column contract.dimension.name]
      else []) ++ [contract.fact.column contract.fact.metricName]
  order : orderName? sql = some
    (if intent.comparison.kind = .none then
      "MAX(".toList ++ contract.fact.column contract.fact.metricDate ++ ")".toList
    else rule.output)

/-- What a statement must be to list rows: it calls no function. -/
structure ListsRows (sql : Text) : Prop where
  items : ∀ item ∈ selectList sql, ¬HoldsCall item
  ungrouped : ∀ line ∈ Text.pieces '\n' sql, ¬"GROUP BY".toList <+: line
  order : ∃ item ∈ selectList sql, orderName? sql = some (unnamed item)

end Statement

namespace Intent

open Statement (IsCall HoldsCall)

variable {contract : SchemaContract} {filtered : Bool}

/-- A summary selects the calls of aggregate functions and its group keys. -/
theorem mem_selectItems_of_rule {rule : AggregationRule} {item : SelectItem}
    (listed : item ∈ selectItems contract (some rule) filtered) :
    (∃ (function : AggregateFunction) (argument : Text),
        item.expression = .call (Tagged.tag function) argument) ∨
      item.expression.render ∈ groupKeys contract (some rule) filtered := by
  simp only [selectItems, List.mem_cons, List.not_mem_nil, or_false] at listed
  rcases listed with rfl | rfl | rfl
  · cases filtered with
    | true => exact .inl ⟨.min, _, rfl⟩
    | false => exact .inr (by simp [groupKeys, Expression.render])
  · right
    cases filtered <;> simp [groupKeys, Expression.render]
  · exact .inl ⟨rule.function, _, rfl⟩

/-- A list of rows selects columns alone. -/
theorem mem_selectItems_of_none {item : SelectItem}
    (listed : item ∈ selectItems contract none filtered) :
    ∃ name, item.expression = .column name := by
  simp only [selectItems, List.mem_cons, List.not_mem_nil, or_false] at listed
  rcases listed with rfl | rfl | rfl | rfl <;> exact ⟨_, rfl⟩

/-- The rows of a list are ordered by a column that it selects. -/
theorem exists_item_of_orderKey (contract : SchemaContract) (filtered : Bool)
    (comparison : Comparison) :
    ∃ item ∈ selectItems contract none filtered,
      item.expression = orderKey contract none comparison := by
  obtain ⟨kind, direction⟩ := comparison
  cases kind <;> simp [selectItems, orderKey]

end Intent

namespace Vocabulary.WellFormed

open Statement (IsCall HoldsCall IsPlain Summarises ListsRows)

variable {vocabulary : Vocabulary} {style : ParamStyle} {intent : Intent}

theorem isPlain_statement (wellFormed : vocabulary.WellFormed)
    (unbroken : '\n' ∉ intent.dateRange.predicate) (style : ParamStyle) :
    (intent.statement vocabulary).IsPlain style where
  selects := intent.items_ne_nil vocabulary
  namesBefore := fun name member =>
    wellFormed.parts_of_written (wellFormed.written_namesBefore intent name member)
  namesAfter := fun name member =>
    wellFormed.parts_of_written (wellFormed.written_namesAfter intent name member)
  conditions := wellFormed.lineFeed_not_mem_conditions unbroken style

theorem summarises (wellFormed : vocabulary.WellFormed)
    (unbroken : '\n' ∉ intent.dateRange.predicate) {rule : AggregationRule}
    (found : vocabulary.aggregation? intent.aggregation.kind = some rule) :
    Summarises vocabulary.schema intent rule (assemble vocabulary style intent).sql := by
  have plain := wellFormed.isPlain_statement unbroken style
  have grouped : Statement.groupedBy (assemble vocabulary style intent).sql =
      Intent.groupKeys vocabulary.schema (some rule) intent.department.isSome := by
    rw [← found]
    exact plain.groupedBy_render
  constructor
  case items =>
    intro text member
    rw [assemble, plain.selectList_render] at member
    obtain ⟨item, listed, rfl⟩ := List.mem_map.mp member
    rw [plain.unnamed_render listed, grouped]
    have kinds := listed
    rw [Intent.statement, found] at kinds
    refine (Intent.mem_selectItems_of_rule kinds).imp_left ?_
    rintro ⟨function, argument, call⟩
    have opening := (plain.not_mem_item (c := '(') (by decide) listed).1
    have closing := (plain.not_mem_item (c := ')') (by decide) listed).1
    rw [call, Expression.names, List.forall_mem_cons, List.forall_mem_singleton]
      at opening closing
    exact ⟨function, argument, opening.2, closing.2, by rw [call]; rfl⟩
  case keys =>
    rw [grouped]
    cases intent.department <;> rfl
  case order =>
    have key : (intent.statement vocabulary).orderKey =
        Intent.orderKey vocabulary.schema (some rule) intent.comparison := by
      rw [← found]
      rfl
    rw [wellFormed.orderName?_sql style intent, key]
    obtain ⟨kind, direction⟩ := intent.comparison
    cases kind <;> rfl

theorem listsRows (wellFormed : vocabulary.WellFormed)
    (unbroken : '\n' ∉ intent.dateRange.predicate)
    (absent : vocabulary.aggregation? intent.aggregation.kind = none) :
    ListsRows (assemble vocabulary style intent).sql := by
  have plain := wellFormed.isPlain_statement unbroken style
  have items : (intent.statement vocabulary).items =
      Intent.selectItems vocabulary.schema none intent.department.isSome := by
    rw [← absent]
    rfl
  constructor
  case items =>
    rintro text member ⟨function, within⟩
    rw [assemble, plain.selectList_render] at member
    obtain ⟨item, listed, rfl⟩ := List.mem_map.mp member
    have names := plain.not_mem_item (c := '(') (by decide) listed
    obtain ⟨name, column⟩ := Intent.mem_selectItems_of_none (items ▸ listed)
    have expression : '(' ∉ item.expression.render := by
      rw [column]
      exact names.1 name (by simp [column, Expression.names])
    exact SelectItem.not_mem_render expression (by decide) names.2
      (within.subset (by simp))
  case ungrouped =>
    apply plain.not_grouped
    rw [Intent.statement, absent]
    rfl
  case order =>
    obtain ⟨item, listed, same⟩ := Intent.exists_item_of_orderKey vocabulary.schema
      intent.department.isSome intent.comparison
    rw [← items] at listed
    refine ⟨item.render, ?_, ?_⟩
    · rw [assemble, plain.selectList_render]
      exact List.mem_map_of_mem listed
    · rw [wellFormed.orderName?_sql style intent, plain.unnamed_render listed, same, ← absent]
      rfl

end Vocabulary.WellFormed

open Statement (selectList groupedBy orderName? clauseLines clauseWords Summarises ListsRows)

/-- A statement selects what its intent asks for, and its clauses stand in one order.  With a rule
for the way of summarising it summarises, and otherwise it lists rows. -/
theorem clauses_agree {raw : Value} {vocabulary : Vocabulary}
    (accepted : Vocabulary.read raw = .ok vocabulary) (style : ParamStyle) {intent : Intent}
    (unbroken : '\n' ∉ intent.dateRange.predicate) :
    let sql := (assemble vocabulary style intent).sql
    let contract := vocabulary.schema
    let rule? := vocabulary.aggregation? intent.aggregation.kind
    selectList sql =
        (Intent.selectItems contract rule? intent.department.isSome).map (·.render) ∧
      (∀ rule, rule? = some rule → Summarises contract intent rule sql) ∧
      (rule? = none → ListsRows sql) ∧
      List.Forall₂ Text.BeginsWith
        (clauseWords (!(intent.conditions contract).isEmpty) rule?.isSome
          (writtenLimit? intent.limit vocabulary.limits.maximum).isSome)
        (clauseLines sql) := by
  intro sql contract rule?
  have wellFormed := Vocabulary.wellFormed_of_read accepted
  have plain := wellFormed.isPlain_statement unbroken style
  have grouped : (!(intent.statement vocabulary).groupKeys.isEmpty) = rule?.isSome := by
    have summarised := @Intent.groupKeys_ne_nil contract rule? intent.department.isSome
    rw [Bool.eq_iff_iff, ← summarised, Bool.not_eq_true', List.isEmpty_eq_false_iff]
    rfl
  have clauses := plain.forall₂_clauseLines
  rw [grouped] at clauses
  exact ⟨plain.selectList_render, fun rule => wellFormed.summarises unbroken,
    wellFormed.listsRows unbroken, clauses⟩

/-- The totals of a department, in a date window and of two metrics. -/
def Vocabulary.totalIntent : Intent where
  department := some .hr
  dateRange := { kind := .q1, predicate := "r.taken_on < 4" }
  aggregation := { kind := .sum, sqlFunction := "SUM" }
  metrics := ["rain", "snow"]
  limit := 3

theorem clauses_agree_total :
    let sql := (assemble Vocabulary.sampleVocabulary .dollar Vocabulary.totalIntent).sql
    '\n' ∉ Vocabulary.totalIntent.dateRange.predicate ∧
      selectList sql = ["MIN(s.title) AS department".toList, "r.label".toList,
        "SUM(r.amount) AS total".toList] ∧
      groupedBy sql = ["r.label".toList] ∧ orderName? sql = some "MAX(r.taken_on)".toList ∧
      (clauseLines sql).length = 7 := by
  have unbroken : '\n' ∉ Vocabulary.totalIntent.dateRange.predicate := by decide
  obtain ⟨selected, summarises, -, clauses⟩ :=
    clauses_agree Vocabulary.read_sampleSource .dollar unbroken
  have summary := summarises _ rfl
  exact ⟨unbroken, selected.trans (by decide), summary.keys.trans (by decide),
    summary.order.trans (by decide), clauses.length_eq.symm⟩

end Inquiry
