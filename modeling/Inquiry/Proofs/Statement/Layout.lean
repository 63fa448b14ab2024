import Inquiry.Proofs.Statement.Lines
import Inquiry.Proofs.Statement.Names
import Inquiry.Proofs.Text.Pieces

/-!
# Statements line by line

Names hold no line feeds, so outside its conditions a statement has just the line
breaks that its clauses are written with.  Its last lines are the order of the rows
and the row limit, and a line of conditions stands in it only if it has some.
-/

namespace Inquiry

/-! ## Line feeds -/

/-- An expression holds its names, and the parentheses of a call. -/
theorem Expression.not_mem_render {c : Char} (foreign : c ∉ "()".toList)
    {expression : Expression} (names : ∀ name ∈ expression.names, c ∉ name) :
    c ∉ expression.render := by
  cases expression with
  | column name => exact names name (by simp [Expression.names])
  | call function argument =>
      simp only [Expression.names, List.forall_mem_cons] at names
      have parentheses : c ∉ "(".toList ++ ")".toList := foreign
      rw [List.mem_append, not_or] at parentheses
      exact List.not_mem_append (List.not_mem_append
        (List.not_mem_append names.1 parentheses.1) names.2.1) parentheses.2

/-- An item holds its expression and its output name. -/
theorem SelectItem.not_mem_render {c : Char} {item : SelectItem}
    (expression : c ∉ item.expression.render) (unspoken : c ∉ " AS ".toList)
    (output : ∀ name ∈ item.output.toList, c ∉ name) : c ∉ item.render := by
  rw [SelectItem.render]
  cases named : item.output with
  | none => exact expression
  | some name =>
      have plain : c ∉ name := output name (by simp [named])
      exact List.not_mem_append (List.not_mem_append expression unspoken) plain

theorem ParamStyle.lineFeed_not_mem (style : ParamStyle) (position : Nat) :
    '\n' ∉ style.placeholder position := by
  cases style with
  | dollar =>
      have digits : '\n' ∉ Decimal.ofNat position := fun member =>
        absurd (Decimal.isDigit_of_mem_ofNat member) (by decide)
      exact List.not_mem_append (s := "$".toList) (by decide) digits
  | qmark => exact (by decide : '\n' ∉ "?".toList)

/-- A condition breaks a line only where its column or the text that it is given as does. -/
theorem Condition.lineFeed_not_mem {condition : Condition}
    (plain : ∀ column ∈ condition.columns, '\n' ∉ column) (given : '\n' ∉ condition.givenText)
    (style : ParamStyle) (bound : Nat) : '\n' ∉ condition.render style bound := by
  cases condition with
  | equals column value =>
      have front := List.not_mem_append (plain column (by simp [columns]))
        (show '\n' ∉ " = ".toList by decide)
      exact List.not_mem_append front (style.lineFeed_not_mem _)
  | given predicate values => exact given
  | among column values =>
      have front := List.not_mem_append (plain column (by simp [columns]))
        (show '\n' ∉ " IN (".toList by decide)
      have marks : '\n' ∉ Text.join ", " (style.placeholders bound values.length) := by
        intro member
        rcases Text.mem_join member with separator | ⟨mark, listed, within⟩
        · exact absurd separator (by decide)
        · obtain ⟨offset, -, rfl⟩ := List.mem_map.mp listed
          exact style.lineFeed_not_mem _ within
      exact List.not_mem_append (List.not_mem_append front marks) (by decide)

/-- Without a line feed in its date condition, every condition of an intent is one line. -/
theorem Vocabulary.WellFormed.lineFeed_not_mem_conditions {vocabulary : Vocabulary}
    (wellFormed : vocabulary.WellFormed) {intent : Intent}
    (unbroken : '\n' ∉ intent.dateRange.predicate) (style : ParamStyle) :
    ∀ text ∈ Condition.renderAll style 0 (intent.conditions vocabulary.schema), '\n' ∉ text := by
  intro text member
  obtain ⟨condition, listed, bound, rfl⟩ := Condition.exists_of_mem_renderAll member
  apply Condition.lineFeed_not_mem
  · exact fun column named => wellFormed.lineFeed_not_mem (written_conditionColumn listed named)
  · rcases Intent.mem_conditions listed with ⟨department, rfl⟩ | ⟨-, rfl⟩ | rfl
    · exact List.not_mem_nil
    · exact unbroken
    · exact List.not_mem_nil

namespace Statement

variable {style : ParamStyle} {statement : Statement}

theorem lineFeed_not_mem_orderLine (names : ∀ name ∈ statement.namesAfter, '\n' ∉ name) :
    '\n' ∉ statement.orderLine := by
  simp only [namesAfter, List.forall_mem_append, List.forall_mem_singleton] at names
  obtain ⟨⟨-, key⟩, direction⟩ := names
  have before : '\n' ∉ "ORDER BY ".toList ++ statement.orderKey.render :=
    List.not_mem_append (by decide) (Expression.not_mem_render (by decide) key)
  exact List.not_mem_append (List.not_mem_append before (by decide)) direction

theorem lineFeed_not_mem_limit (limit : Nat) :
    '\n' ∉ "LIMIT ".toList ++ Decimal.ofNat limit := by
  have digits : '\n' ∉ Decimal.ofNat limit := fun member =>
    absurd (Decimal.isDigit_of_mem_ofNat member) (by decide)
  exact List.not_mem_append (by decide) digits

theorem lineFeed_not_mem_groups (names : ∀ name ∈ statement.namesAfter, '\n' ∉ name) :
    '\n' ∉ "GROUP BY ".toList ++ Text.join ", " statement.groupKeys := by
  simp only [namesAfter, List.forall_mem_append] at names
  obtain ⟨⟨groups, -⟩, -⟩ := names
  have listed : '\n' ∉ Text.join ", " statement.groupKeys := by
    intro member
    rcases Text.mem_join member with separator | ⟨name, found, within⟩
    · exact absurd separator (by decide)
    · exact groups name found within
  exact List.not_mem_append (by decide) listed

theorem not_mem_items {c : Char} (foreign : c ∉ "()".toList) (unspoken : c ∉ " AS ".toList)
    (names : ∀ name ∈ statement.namesBefore, c ∉ name) :
    ∀ item ∈ statement.items.map (·.render), c ∉ item := by
  simp only [namesBefore, SelectItem.names, List.forall_mem_append, List.forall_mem_flatMap]
    at names
  intro text member
  obtain ⟨item, listed, rfl⟩ := List.mem_map.mp member
  obtain ⟨expression, output⟩ := names.1 item listed
  exact SelectItem.not_mem_render (Expression.not_mem_render foreign expression) unspoken output

theorem lineFeed_not_mem_items (names : ∀ name ∈ statement.namesBefore, '\n' ∉ name) :
    ∀ item ∈ statement.items.map (·.render), '\n' ∉ item :=
  not_mem_items (by decide) (by decide) names

theorem lineFeed_not_mem_fromLine (names : ∀ name ∈ statement.namesBefore, '\n' ∉ name) :
    '\n' ∉ fromLine statement.contract := by
  simp only [namesBefore, List.forall_mem_append, List.forall_mem_cons] at names
  obtain ⟨-, table, shortName, -⟩ := names
  have before := List.not_mem_append (s := "FROM ".toList) (by decide) table
  exact List.not_mem_append (List.not_mem_append before (by decide)) shortName

theorem lineFeed_not_mem_joinLine (names : ∀ name ∈ statement.namesBefore, '\n' ∉ name) :
    '\n' ∉ joinLine statement.contract := by
  simp only [namesBefore, List.forall_mem_append, List.forall_mem_cons] at names
  obtain ⟨-, -, -, table, shortName, factKey, dimensionKey, -⟩ := names
  have tables := List.not_mem_append (List.not_mem_append
    (List.not_mem_append (s := "INNER JOIN ".toList) (by decide) table)
    (t := " AS ".toList) (by decide)) shortName
  have left := List.not_mem_append (List.not_mem_append tables (t := " ON ".toList) (by decide))
    factKey
  exact List.not_mem_append (List.not_mem_append left (by decide)) dimensionKey

/-! ## Lines -/

/-- The lines of a statement are those of its clauses. -/
theorem pieces_render (style : ParamStyle) (statement : Statement) :
    Text.pieces '\n' (statement.render style) =
      statement.openingClauses.flatMap (Text.pieces '\n') ++
        (clause "WHERE " "\n  AND " (Condition.renderAll style 0 statement.conditions)).flatMap
          (Text.pieces '\n') ++
        statement.closingClauses.flatMap (Text.pieces '\n') := by
  have nonempty : statement.clauses style ≠ [] := by
    rw [clauses_eq_around, openingClauses]
    simp
  rw [← List.flatMap_append, ← List.flatMap_append, ← clauses_eq_around]
  exact Text.pieces_join nonempty

theorem flatMap_pieces_of_not_mem {texts : List Text} (plain : ∀ text ∈ texts, '\n' ∉ text) :
    texts.flatMap (Text.pieces '\n') = texts := by
  induction texts with
  | nil => rfl
  | cons text rest ih =>
      rw [List.forall_mem_cons] at plain
      rw [List.flatMap_cons, Text.pieces_of_not_mem plain.1, ih plain.2, List.singleton_append]

/-- Behind the conditions every clause is a line. -/
theorem lineFeed_not_mem_closing (names : ∀ name ∈ statement.namesAfter, '\n' ∉ name) :
    ∀ text ∈ statement.closingClauses, '\n' ∉ text := by
  simp only [closingClauses, List.forall_mem_append, List.forall_mem_singleton]
  refine ⟨⟨?_, lineFeed_not_mem_orderLine names⟩, ?_⟩
  · rw [clause]
    split
    · simp
    · simpa only [List.forall_mem_singleton] using lineFeed_not_mem_groups names
  · intro text member
    obtain ⟨limit, -, rfl⟩ := Option.map_eq_some_iff.mp (Option.mem_toList.mp member)
    exact lineFeed_not_mem_limit limit

/-- The last lines are the order of the rows and the row limit. -/
theorem exists_lines (style : ParamStyle) (names : ∀ name ∈ statement.namesAfter, '\n' ∉ name) :
    ∃ before, Text.pieces '\n' (statement.render style) = before ++ statement.orderLine ::
      (statement.limit.map fun limit => "LIMIT ".toList ++ Decimal.ofNat limit).toList := by
  rw [pieces_render, flatMap_pieces_of_not_mem (lineFeed_not_mem_closing names), closingClauses,
    List.append_assoc _ [statement.orderLine], ← List.append_assoc]
  exact ⟨_, rfl⟩

/-! ## The words that lines begin with -/

theorem prefix_append₃ (word first second third : Text) :
    word <+: word ++ first ++ second ++ third := by
  simp only [List.append_assoc]
  exact List.prefix_append _ _

theorem prefix_fromLine (contract : SchemaContract) : "FROM ".toList <+: fromLine contract :=
  prefix_append₃ _ _ _ _

theorem prefix_joinLine (contract : SchemaContract) :
    "INNER JOIN ".toList <+: joinLine contract :=
  ((prefix_append₃ _ _ _ _).trans (prefix_append₃ _ _ _ _)).trans (List.prefix_append _ _)

theorem prefix_orderLine (statement : Statement) :
    "ORDER BY ".toList <+: statement.orderLine :=
  prefix_append₃ _ _ _ _

theorem not_order_of_limit (digits : Text) :
    ¬"ORDER BY ".toList <+: "LIMIT ".toList ++ digits := by
  rintro ⟨rest, whole⟩
  have heads : some 'O' = some 'L' := congrArg List.head? whole
  exact absurd heads (by decide)

theorem orderLine_ne_limit (statement : Statement) (digits : Text) :
    statement.orderLine ≠ "LIMIT ".toList ++ digits := by
  intro same
  have begins := prefix_orderLine statement
  rw [same] at begins
  exact not_order_of_limit digits begins

theorem not_where_of_head {line : Text} (head : line.head? ≠ some 'W') :
    ¬"WHERE ".toList <+: line := by
  rintro ⟨rest, rfl⟩
  exact head rfl

theorem head?_of_keyword {keyword line : Text} {first : Char} (begins : keyword <+: line)
    (head : keyword.head? = some first) : line.head? = some first := by
  obtain ⟨rest, rfl⟩ := begins
  rw [List.head?_append, head, Option.some_or]

/-- A list of items has one line for each of them. -/
theorem pieces_items {items : List Text} (plain : ∀ item ∈ items, '\n' ∉ item) :
    Text.pieces '\n' ("  ".toList ++ Text.join ",\n  " items) =
      Text.hang "  " "," "  " items := by
  have separator : ",\n  ".toList = ",".toList ++ '\n' :: "  ".toList := by decide
  rw [separator]
  exact Text.pieces_hang (by decide) (by decide) (by decide) plain

theorem head?_of_mem_hang_items {items : List Text} {line : Text}
    (member : line ∈ Text.hang "  " "," "  " items) : line.head? = some ' ' := by
  obtain ⟨rest, rfl⟩ | ⟨rest, rfl⟩ := Text.exists_of_mem_hang member <;> rfl

/-- The word that a statement begins with is a line, and so is every item. -/
theorem pieces_select (names : ∀ name ∈ statement.namesBefore, '\n' ∉ name) :
    Text.pieces '\n' ("SELECT\n  ".toList ++
        Text.join ",\n  " (statement.items.map (·.render))) =
      "SELECT".toList :: Text.hang "  " "," "  " (statement.items.map (·.render)) := by
  have keyword : "SELECT\n  ".toList = "SELECT".toList ++ '\n' :: "  ".toList := by decide
  rw [keyword, List.append_assoc, List.cons_append, Text.pieces_append_mark,
    Text.pieces_of_not_mem (by decide), pieces_items (lineFeed_not_mem_items names),
    List.singleton_append]

theorem flatMap_pieces_source (names : ∀ name ∈ statement.namesBefore, '\n' ∉ name) :
    [fromLine statement.contract, joinLine statement.contract].flatMap (Text.pieces '\n') =
      [fromLine statement.contract, joinLine statement.contract] := by
  apply flatMap_pieces_of_not_mem
  simp only [List.forall_mem_cons]
  exact ⟨lineFeed_not_mem_fromLine names, lineFeed_not_mem_joinLine names, by simp⟩

/-- The lines of what a statement selects and from where. -/
theorem flatMap_pieces_opening (nonempty : statement.items ≠ [])
    (names : ∀ name ∈ statement.namesBefore, '\n' ∉ name) :
    statement.openingClauses.flatMap (Text.pieces '\n') =
      "SELECT".toList :: (Text.hang "  " "," "  " (statement.items.map (·.render)) ++
        [fromLine statement.contract, joinLine statement.contract]) := by
  rw [openingClauses, List.flatMap_append, flatMap_pieces_source names, clause,
    if_neg (by simpa using nonempty), List.flatMap_singleton, pieces_select names,
    List.cons_append]

theorem head?_of_mem_opening (names : ∀ name ∈ statement.namesBefore, '\n' ∉ name) :
    ∀ line ∈ statement.openingClauses.flatMap (Text.pieces '\n'), line.head? ≠ some 'W' := by
  rw [openingClauses, List.flatMap_append, flatMap_pieces_source names, clause]
  simp only [List.forall_mem_append, List.forall_mem_cons]
  refine ⟨?_, ?_, ?_, by simp⟩
  · split
    · simp
    · rw [List.flatMap_singleton, pieces_select names, List.forall_mem_cons]
      refine ⟨by decide, fun line member => ?_⟩
      rw [head?_of_mem_hang_items member]
      decide
  · rw [head?_of_keyword (prefix_fromLine statement.contract) rfl]
    decide
  · rw [head?_of_keyword (prefix_joinLine statement.contract) rfl]
    decide

/-- Behind its conditions a statement has lines of three kinds. -/
theorem head?_of_mem_closing :
    ∀ line ∈ statement.closingClauses, ∃ first ∈ "GOL".toList, line.head? = some first := by
  simp only [closingClauses, List.forall_mem_append, List.forall_mem_singleton]
  refine ⟨⟨?_, ?_⟩, ?_⟩
  · rw [clause]
    split
    · simp
    · simp only [List.forall_mem_singleton]
      exact ⟨'G', by decide, rfl⟩
  · exact ⟨'O', by decide, head?_of_keyword (prefix_orderLine statement) rfl⟩
  · intro line member
    obtain ⟨limit, -, rfl⟩ := Option.map_eq_some_iff.mp (Option.mem_toList.mp member)
    exact ⟨'L', by decide, rfl⟩

theorem head?_ne_of_mem_closing {c : Char} (foreign : c ∉ "GOL".toList) :
    ∀ line ∈ statement.closingClauses, line.head? ≠ some c := by
  intro line member same
  obtain ⟨first, listed, head⟩ := head?_of_mem_closing line member
  obtain rfl : first = c := Option.some.inj (head.symm.trans same)
  exact foreign listed

/-- A statement has a line of conditions exactly when it has conditions. -/
theorem exists_where_iff (style : ParamStyle)
    (before : ∀ name ∈ statement.namesBefore, '\n' ∉ name)
    (after : ∀ name ∈ statement.namesAfter, '\n' ∉ name) :
    (∃ line ∈ Text.pieces '\n' (statement.render style), "WHERE ".toList <+: line) ↔
      statement.conditions ≠ [] := by
  rw [pieces_render, flatMap_pieces_of_not_mem (lineFeed_not_mem_closing after)]
  constructor
  · rintro ⟨line, member, begins⟩ absent
    rw [absent, Condition.renderAll, clause, if_pos List.isEmpty_nil, List.flatMap_nil,
      List.append_nil,
      List.mem_append] at member
    apply not_where_of_head _ begins
    rcases member with opening | closing
    · exact head?_of_mem_opening before line opening
    · exact head?_ne_of_mem_closing (by decide) line closing
  · intro present
    rw [clause_conditions style present, List.flatMap_singleton]
    have keyword : '\n' ∉ "WHERE ".toList := by decide
    obtain ⟨first, others, -, written⟩ := Text.exists_pieces_append keyword
      (Text.join "\n  AND " (Condition.renderAll style 0 statement.conditions))
    refine ⟨_, List.mem_append_left _ (List.mem_append_right _ ?_), List.prefix_append _ first⟩
    rw [written]
    exact List.mem_cons_self

end Statement

/-! ## Assembled statements -/

theorem Intent.items_ne_nil (vocabulary : Vocabulary) (intent : Intent) :
    (intent.statement vocabulary).items ≠ [] := by
  simp only [statement, selectItems]
  split <;> exact List.cons_ne_nil _ _

/-- Only what is summarised is grouped. -/
theorem Intent.groupKeys_ne_nil {contract : SchemaContract} {rule : Option AggregationRule}
    {filtered : Bool} : groupKeys contract rule filtered ≠ [] ↔ rule.isSome = true := by
  cases rule <;> cases filtered <;> simp [groupKeys]

theorem exists_select (vocabulary : Vocabulary) (style : ParamStyle) (intent : Intent) :
    ∃ rest, (assemble vocabulary style intent).sql = "SELECT\n  ".toList ++ rest := by
  change ∃ rest, (intent.statement vocabulary).render style = _
  rw [Statement.render_unlimited, Statement.render_eq_lines (intent.items_ne_nil vocabulary)]
  simp only [List.append_assoc]
  exact ⟨_, rfl⟩

theorem begins_sql (vocabulary : Vocabulary) (style : ParamStyle) (intent : Intent) :
    (assemble vocabulary style intent).sql.head?.any Text.isBlank = false := by
  obtain ⟨rest, selected⟩ := exists_select vocabulary style intent
  rw [selected]
  rfl

end Inquiry
