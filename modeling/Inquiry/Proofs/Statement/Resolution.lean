import Inquiry.Proofs.Statement.Layout

/-!
# What the names of a statement denote

A statement gives each of its two tables a short name and each of its columns an output name.
Where the rows are ordered by a name without a table, it is an output name that is meant.
Databases read names without regard to case.

The names are read off the text of a statement, line by line.  Each of them denotes one thing
exactly when the short names differ, and the output names as well, in small letters.
-/

namespace Inquiry

open Statement (isNamePart)

namespace Statement

/-! ## Names in the lines of a text -/

/-- The lines behind the first one that begin with a blank. -/
def selectLines (sql : Text) : List Text :=
  ((Text.pieces '\n' sql).drop 1).takeWhile fun line => line.head? == some ' '

/-- The two lines behind those of the select list. -/
def sourceLines (sql : Text) : List Text :=
  (((Text.pieces '\n' sql).drop 1).dropWhile fun line => line.head? == some ' ').take 2

/-- The name that a line of the select list gives to its column: its last word. -/
def outputName? (line : Text) : Option Text :=
  (Text.runs isNamePart line).getLast?

/-- The short name in a line of a table: FROM or JOIN is followed by the table, AS and the short
name. -/
def tableAlias? (line : Text) : Option Text :=
  ((Text.pieces ' ' line).dropWhile fun word =>
    word != "FROM".toList && word != "JOIN".toList)[3]?

/-- What the rows are ordered by, in the last line of that kind: a date condition may hold lines
of its own. -/
def orderName? (sql : Text) : Option Text :=
  ((Text.pieces '\n' sql).reverse.find? fun line => "ORDER BY ".toList.isPrefixOf line).bind
    fun line => (Text.pieces ' ' line)[2]?

/-- The short names of the two tables. -/
def tableAliases (sql : Text) : List Text :=
  (sourceLines sql).filterMap tableAlias?

/-- The names of the columns that are selected. -/
def outputNames (sql : Text) : List Text :=
  (selectLines sql).filterMap outputName?

/-- Every name denotes one thing, whatever its case. -/
structure Resolves (sql : Text) : Prop where
  aliases : ((tableAliases sql).map Text.lower).Nodup
  outputs : ((outputNames sql).map Text.lower).Nodup
  order : ∀ name, orderName? sql = some name → (∀ c ∈ name, isNamePart c = true) →
    ((outputNames sql).map Text.lower).count (Text.lower name) = 1

/-! ## Lines of tables -/

variable {contract : SchemaContract} {statement : Statement} {style : ParamStyle}

theorem blank_not_mem_of_parts {name : Text} (parts : ∀ c ∈ name, isNamePart c = true) :
    ' ' ∉ name :=
  fun member => absurd (parts ' ' member) (by decide)

/-- The words of a line come one after the other. -/
theorem pieces_word {word : Text} (whole : ' ' ∉ word) (rest : Text) :
    Text.pieces ' ' (word ++ ' ' :: rest) = word :: Text.pieces ' ' rest := by
  rw [Text.pieces_append_mark, Text.pieces_of_not_mem whole, List.singleton_append]

theorem tableAlias?_fromLine (table : ∀ c ∈ contract.fact.table, isNamePart c = true)
    (shortName : ∀ c ∈ contract.fact.shortName, isNamePart c = true) :
    tableAlias? (fromLine contract) = some contract.fact.shortName := by
  have words : fromLine contract = "FROM".toList ++ ' ' :: (contract.fact.table ++ ' ' ::
      ("AS".toList ++ ' ' :: contract.fact.shortName)) := by
    unfold fromLine
    simp only [List.append_assoc]
    rfl
  rw [tableAlias?, words, pieces_word (by decide), pieces_word (blank_not_mem_of_parts table),
    pieces_word (by decide), Text.pieces_of_not_mem (blank_not_mem_of_parts shortName)]
  rfl

theorem tableAlias?_joinLine (table : ∀ c ∈ contract.dimension.table, isNamePart c = true)
    (shortName : ∀ c ∈ contract.dimension.shortName, isNamePart c = true) :
    tableAlias? (joinLine contract) = some contract.dimension.shortName := by
  have words : joinLine contract = "INNER".toList ++ ' ' :: ("JOIN".toList ++ ' ' ::
      (contract.dimension.table ++ ' ' :: ("AS".toList ++ ' ' ::
        (contract.dimension.shortName ++ ' ' :: ("ON ".toList ++
          (contract.fact.column contract.fact.departmentKey ++ (" = ".toList ++
            contract.dimension.column contract.dimension.key))))))) := by
    unfold joinLine
    simp only [List.append_assoc]
    rfl
  rw [tableAlias?, words, pieces_word (by decide), pieces_word (by decide),
    pieces_word (blank_not_mem_of_parts table), pieces_word (by decide),
    pieces_word (blank_not_mem_of_parts shortName)]
  generalize Text.pieces ' ' (_ ++ _) = later
  rfl

/-! ## Lines of the select list -/

theorem outputName?_comma (line : Text) : outputName? (line ++ [',']) = outputName? line := by
  rw [outputName?, Text.runs_concat (by decide), outputName?]

theorem outputName?_indented (item : Text) :
    outputName? ("  ".toList ++ item) = outputName? item := by
  rw [outputName?, outputName?]
  exact congrArg List.getLast? ((Text.runs_cons (by decide) _).trans (Text.runs_cons (by decide) _))

/-- A name behind a character that is no name part is the last word. -/
theorem outputName?_append {name : Text} (nonempty : name ≠ [])
    (parts : ∀ c ∈ name, isNamePart c = true) {c : Char} (outside : isNamePart c = false)
    (before : Text) : outputName? (before ++ c :: name) = some name := by
  rw [outputName?, Text.runs_append_cons outside, Text.runs_eq_singleton nonempty parts,
    List.getLast?_concat]

/-- The lines of a list of items give the names that the items give. -/
theorem filterMap_hang_items {items : List Text} (nonempty : items ≠ []) :
    (Text.hang "  " "," "  " items).filterMap outputName? = items.filterMap outputName? := by
  have reads : (Text.hang "  " "," "  " items).map outputName? = items.map outputName? := by
    refine Text.map_hang nonempty fun item _ start same => ?_
    obtain rfl : start = "  ".toList := same.elim id id
    exact ⟨outputName?_indented item, (outputName?_comma _).trans (outputName?_indented item)⟩
  have spread : ∀ lines : List Text,
      lines.filterMap outputName? = (lines.map outputName?).filterMap id := by
    simp only [List.filterMap_map, Function.id_comp, implies_true]
  rw [spread, reads, ← spread]

/-! ## Lines of a statement -/

/-- A statement begins with the lines of its select list and those of its tables. -/
theorem exists_opening_lines (style : ParamStyle) (nonempty : statement.items ≠ [])
    (names : ∀ name ∈ statement.namesBefore, '\n' ∉ name) :
    ∃ later, Text.pieces '\n' (statement.render style) = "SELECT".toList ::
      (Text.hang "  " "," "  " (statement.items.map (·.render)) ++
        fromLine statement.contract :: joinLine statement.contract :: later) := by
  rw [pieces_render, flatMap_pieces_opening nonempty names]
  simp only [List.cons_append, List.append_assoc, List.nil_append]
  exact ⟨_, rfl⟩

/-- The lines of the select list are those of its items, and the lines of the tables come behind
them. -/
theorem lines_render (style : ParamStyle) (nonempty : statement.items ≠ [])
    (names : ∀ name ∈ statement.namesBefore, '\n' ∉ name) :
    selectLines (statement.render style) =
        Text.hang "  " "," "  " (statement.items.map (·.render)) ∧
      sourceLines (statement.render style) =
        [fromLine statement.contract, joinLine statement.contract] := by
  obtain ⟨later, lines⟩ := exists_opening_lines style nonempty names
  have indented : ∀ line ∈ Text.hang "  " "," "  " (statement.items.map (·.render)),
      (line.head? == some ' ') = true :=
    fun line member => beq_iff_eq.mpr (head?_of_mem_hang_items member)
  have source : ((fromLine statement.contract).head? == some ' ') = false := rfl
  rw [selectLines, sourceLines, lines, List.drop_one, List.tail_cons,
    List.takeWhile_append_of_pos indented, List.dropWhile_append_of_pos indented,
    List.takeWhile_cons, List.dropWhile_cons, source]
  simp

theorem find?_last {accepts : Text → Bool} {before after : List Text} {line : Text}
    (accepted : accepts line = true) (others : ∀ other ∈ after, accepts other = false) :
    (before ++ line :: after).reverse.find? accepts = some line := by
  have refused : after.reverse.find? accepts = none :=
    List.find?_eq_none.mpr fun other member => by simp [others other (List.mem_reverse.mp member)]
  rw [List.reverse_append, List.reverse_cons, List.append_assoc, List.find?_append, refused,
    Option.none_or, List.singleton_append, List.find?_cons_of_pos accepted]

/-- The last line but for the row limit tells what the rows are ordered by. -/
theorem orderName?_render (style : ParamStyle)
    (names : ∀ name ∈ statement.namesAfter, '\n' ∉ name)
    (whole : ' ' ∉ statement.orderKey.render) :
    orderName? (statement.render style) = some statement.orderKey.render := by
  obtain ⟨before, lines⟩ := exists_lines style names
  have order : "ORDER BY ".toList.isPrefixOf statement.orderLine = true :=
    List.isPrefixOf_iff_prefix.mpr statement.prefix_orderLine
  have others : ∀ line ∈ (statement.limit.map fun limit =>
      "LIMIT ".toList ++ Decimal.ofNat limit).toList,
      "ORDER BY ".toList.isPrefixOf line = false := by
    intro line member
    obtain ⟨limit, -, rfl⟩ := Option.map_eq_some_iff.mp (Option.mem_toList.mp member)
    rfl
  have words : statement.orderLine = "ORDER".toList ++ ' ' :: ("BY".toList ++ ' ' ::
      (statement.orderKey.render ++ ' ' :: Tagged.tag statement.direction)) := by
    unfold orderLine
    simp only [List.append_assoc]
    rfl
  rw [orderName?, lines, find?_last order others, Option.bind_some, words,
    pieces_word (by decide), pieces_word (by decide), pieces_word whole]
  rfl

end Statement

/-! ## Assembled statements -/

open Statement (outputName? tableAlias? outputNames tableAliases orderName? Resolves)

namespace Vocabulary

/-- The output names of a way of summarising, or of the records themselves. -/
def outputs (vocabulary : Vocabulary) (kind : AggregationKind) : List Text :=
  let fact := vocabulary.schema.fact
  match vocabulary.aggregation? kind with
  | none => ["department", fact.metricName, fact.metricValue, fact.metricDate]
  | some rule => ["department", fact.metricName, rule.output]

theorem ne_nil_of_isIdentifier {name : Text} (identifier : isIdentifier name = true) :
    name ≠ [] := by
  rintro rfl
  cases identifier

theorem outputName?_named {name : Text} (identifier : isIdentifier name = true)
    (expression : Expression) :
    outputName? (SelectItem.render { expression, output := some name }) = some name := by
  have regroup : SelectItem.render { expression, output := some name } =
      (expression.render ++ " AS".toList) ++ ' ' :: name := by
    simp only [SelectItem.render, List.append_assoc]
    rfl
  rw [regroup, Statement.outputName?_append (ne_nil_of_isIdentifier identifier)
    (parts_of_isIdentifier identifier) (by decide)]

theorem outputName?_qualified {column : Text} (identifier : isIdentifier column = true)
    (shortName : Text) : outputName? (qualified shortName column) = some column := by
  have regroup : qualified shortName column = shortName ++ '.' :: column := by
    simp [qualified]
  rw [regroup, Statement.outputName?_append (ne_nil_of_isIdentifier identifier)
    (parts_of_isIdentifier identifier) (by decide)]

/-- The rows are ordered by an output name, or by what is no name of its own. -/
theorem mem_outputs_of_orderKey (vocabulary : Vocabulary) (intent : Intent)
    (bare : ∀ c ∈ (intent.statement vocabulary).orderKey.render, isNamePart c = true) :
    (intent.statement vocabulary).orderKey.render ∈ vocabulary.outputs intent.aggregation.kind := by
  have pointed : ∀ shortName column : Text, ¬∀ c ∈ qualified shortName column,
      isNamePart c = true :=
    fun shortName column parts => absurd (parts '.' (by simp [qualified])) (by decide)
  have called : ∀ function argument : Text, ¬∀ c ∈ (Expression.call function argument).render,
      isNamePart c = true :=
    fun function argument parts => absurd (parts '(' (by simp [Expression.render])) (by decide)
  simp only [Intent.statement, Intent.orderKey] at bare ⊢
  rw [outputs]
  -- Only a ranked summary is ordered by a name without a table.
  cases found : vocabulary.aggregation? intent.aggregation.kind with
  | none =>
      cases kind : intent.comparison.kind <;> simp only [found, kind] at bare
      all_goals exact absurd bare (pointed _ _)
  | some rule =>
      cases kind : intent.comparison.kind with
      | none =>
          simp only [found, kind] at bare
          exact absurd bare (called _ _)
      | top | bottom => simp [Expression.render]

namespace WellFormed

variable {vocabulary : Vocabulary}

/-- The names that a select list gives to its columns. -/
theorem filterMap_selectItems (wellFormed : vocabulary.WellFormed) (kind : AggregationKind)
    (filtered : Bool) :
    ((Intent.selectItems vocabulary.schema (vocabulary.aggregation? kind) filtered).map
        (·.render)).filterMap outputName? = vocabulary.outputs kind := by
  have department : isIdentifier "department" = true := by decide
  have column : ∀ name ∈ vocabulary.schema.fact.columns,
      outputName? (vocabulary.schema.fact.column name) = some name :=
    fun name listed => outputName?_qualified
      (wellFormed.factNames name (by simp [FactTable.names, listed])) _
  have metricName := column vocabulary.schema.fact.metricName (by simp [FactTable.columns])
  have metricValue := column vocabulary.schema.fact.metricValue (by simp [FactTable.columns])
  have metricDate := column vocabulary.schema.fact.metricDate (by simp [FactTable.columns])
  rw [outputs]
  cases found : vocabulary.aggregation? kind with
  | none =>
      simp only [Intent.selectItems, List.map_cons, List.map_nil, List.filterMap_cons,
        List.filterMap_nil, outputName?_named department]
      simp only [SelectItem.render, Expression.render, metricName, metricValue, metricDate]
  | some rule =>
      have output := wellFormed.aggregationOutput rule (aggregation_mem found)
      simp only [Intent.selectItems, List.map_cons, List.map_nil, List.filterMap_cons,
        List.filterMap_nil, outputName?_named department, outputName?_named output]
      simp only [SelectItem.render, Expression.render, metricName]

/-- The names that are read off the text of an intent. -/
theorem names_sql (wellFormed : vocabulary.WellFormed) (style : ParamStyle) (intent : Intent) :
    tableAliases (assemble vocabulary style intent).sql =
        [vocabulary.schema.fact.shortName, vocabulary.schema.dimension.shortName] ∧
      outputNames (assemble vocabulary style intent).sql =
        vocabulary.outputs intent.aggregation.kind := by
  have names : ∀ name ∈ (intent.statement vocabulary).namesBefore, '\n' ∉ name :=
    fun name member =>
      wellFormed.lineFeed_not_mem (wellFormed.written_namesBefore intent name member)
  obtain ⟨selected, source⟩ :=
    Statement.lines_render style (intent.items_ne_nil vocabulary) names
  have items : (intent.statement vocabulary).items.map (·.render) ≠ [] := by
    simpa using intent.items_ne_nil vocabulary
  have fact : ∀ name ∈ vocabulary.schema.fact.names, ∀ c ∈ name, isNamePart c = true :=
    fun name member => parts_of_isIdentifier (wellFormed.factNames name member)
  have dimension : ∀ name ∈ vocabulary.schema.dimension.names, ∀ c ∈ name,
      isNamePart c = true :=
    fun name member => parts_of_isIdentifier (wellFormed.dimensionNames name member)
  constructor
  · have left : tableAlias? (Statement.fromLine vocabulary.schema) =
        some vocabulary.schema.fact.shortName :=
      Statement.tableAlias?_fromLine (fact _ (by simp [FactTable.names]))
        (fact _ (by simp [FactTable.names]))
    have right : tableAlias? (Statement.joinLine vocabulary.schema) =
        some vocabulary.schema.dimension.shortName :=
      Statement.tableAlias?_joinLine (dimension _ (by simp [DimensionTable.names]))
        (dimension _ (by simp [DimensionTable.names]))
    change (Statement.sourceLines ((intent.statement vocabulary).render style)).filterMap _ = _
    rw [source]
    exact (List.filterMap_cons_some left).trans
      (congrArg _ (List.filterMap_cons_some right))
  · change (Statement.selectLines ((intent.statement vocabulary).render style)).filterMap _ = _
    rw [selected, Statement.filterMap_hang_items items]
    exact wellFormed.filterMap_selectItems _ _

theorem orderName?_sql (wellFormed : vocabulary.WellFormed) (style : ParamStyle)
    (intent : Intent) : orderName? (assemble vocabulary style intent).sql =
      some (intent.statement vocabulary).orderKey.render := by
  have written := wellFormed.written_namesAfter intent
  refine Statement.orderName?_render style
    (fun name member => wellFormed.lineFeed_not_mem (written name member)) ?_
  have whole : ∀ name ∈ (intent.statement vocabulary).orderKey.names, ' ' ∉ name := by
    intro name member blank
    have part := wellFormed.parts_of_written
      (written name (by simp [Statement.namesAfter, member])) ' ' blank
    exact absurd part (by decide)
  cases key : (intent.statement vocabulary).orderKey with
  | column name => exact whole name (by simp [key, Expression.names])
  | call function argument =>
      simp only [key, Expression.names, List.forall_mem_cons] at whole
      simp [Expression.render, whole.1, whole.2.1]

end WellFormed

end Vocabulary

/-- What the names in the text of a statement are, and that each of them denotes one thing exactly
when the two short names differ, and the output names as well, whatever their case. -/
theorem resolves_iff {raw : Value} {vocabulary : Vocabulary}
    (accepted : Vocabulary.read raw = .ok vocabulary) (style : ParamStyle) (intent : Intent) :
    let sql := (assemble vocabulary style intent).sql
    let contract := vocabulary.schema
    let outputs := vocabulary.outputs intent.aggregation.kind
    (tableAliases sql = [contract.fact.shortName, contract.dimension.shortName] ∧
        outputNames sql = outputs ∧
        orderName? sql = some (intent.statement vocabulary).orderKey.render) ∧
      (Resolves sql ↔
        Text.lower contract.fact.shortName ≠ Text.lower contract.dimension.shortName ∧
          (outputs.map Text.lower).Nodup) := by
  intro sql contract outputs
  have wellFormed := Vocabulary.wellFormed_of_read accepted
  obtain ⟨aliases, named⟩ := wellFormed.names_sql style intent
  have ordered := wellFormed.orderName?_sql style intent
  refine ⟨⟨aliases, named, ordered⟩, ?_⟩
  have distinct : ((tableAliases sql).map Text.lower).Nodup ↔
      Text.lower contract.fact.shortName ≠ Text.lower contract.dimension.shortName := by
    rw [aliases]
    simp [contract]
  constructor
  · intro resolves
    have outputsApart := resolves.outputs
    rw [named] at outputsApart
    exact ⟨distinct.mp resolves.aliases, outputsApart⟩
  · rintro ⟨apart, outputsApart⟩
    constructor
    case aliases => exact distinct.mpr apart
    case outputs =>
      rw [named]
      exact outputsApart
    case order =>
      intro name found bare
      obtain rfl := Option.some.inj (ordered.symm.trans found)
      rw [named]
      exact List.count_eq_one_of_mem outputsApart
        (List.mem_map_of_mem (Vocabulary.mem_outputs_of_orderKey vocabulary intent bare))

/-- The total of every metric, the highest first. -/
def Vocabulary.rankedIntent : Intent where
  aggregation := { kind := .sum, sqlFunction := "SUM" }
  comparison := { kind := .top, direction := .descending }

theorem resolves_ranked :
    Vocabulary.read Vocabulary.sampleSource = .ok Vocabulary.sampleVocabulary ∧
      Resolves (assemble Vocabulary.sampleVocabulary .dollar Vocabulary.rankedIntent).sql := by
  refine ⟨Vocabulary.read_sampleSource, ?_⟩
  exact (resolves_iff Vocabulary.read_sampleSource .dollar Vocabulary.rankedIntent).2.mpr
    ⟨by decide, by decide⟩

namespace Vocabulary

/-- A source with a short name for its dimension table and a name for its totals. -/
def namesakeSource (shortName output : Text) : Value := .record
  [("schema", .record
     [("fact", .record
        [("table", .text "readings"), ("alias", .text "r"),
         ("department_key", .text "site_id"), ("metric_name", .text "label"),
         ("metric_value", .text "amount"), ("metric_date", .text "taken_on"),
         ("change_percent", .text "change")]),
      ("dimension", .record
        [("table", .text "sites"), ("alias", .text shortName), ("key", .text "id"),
         ("name", .text "title"), ("code", .text "code")])]),
   ("aggregations", .list
     [.record [("kind", .text "sum"), ("keywords", .texts ["total"]),
       ("function", .text "sum"), ("output", .text output)]])]

/-- The vocabulary that such a source describes. -/
def namesakeVocabulary (shortName output : Text) : Vocabulary where
  version := .int 1
  schema :=
    { fact := sampleVocabulary.schema.fact
      dimension := { sampleVocabulary.schema.dimension with shortName } }
  departments := []
  dateRanges := []
  aggregations :=
    [{ kind := .sum
       keywords := ["total"]
       function := .sum
       column := "r.amount"
       output
       label := .text "calculate sum of" }]
  metrics := []
  comparisons := []
  limits := { patterns := [], defaultRanked := 10, maximum := 1000 }

set_option maxRecDepth 20000 in
theorem read_namesakeSources :
    read (namesakeSource "R" "total") = .ok (namesakeVocabulary "R" "total") ∧
      read (namesakeSource "s" "Department") = .ok (namesakeVocabulary "s" "Department") := by
  constructor <;> with_unfolding_all rfl

end Vocabulary

/-- Short names that differ in case alone are accepted, and so is a name for totals that the
department has already. -/
theorem namesakes_unresolved :
    (Vocabulary.read (Vocabulary.namesakeSource "R" "total") =
        .ok (Vocabulary.namesakeVocabulary "R" "total") ∧
      tableAliases (assemble (Vocabulary.namesakeVocabulary "R" "total") .dollar {}).sql =
        ["r".toList, "R".toList] ∧
      ¬Resolves (assemble (Vocabulary.namesakeVocabulary "R" "total") .dollar {}).sql) ∧
    (Vocabulary.read (Vocabulary.namesakeSource "s" "Department") =
        .ok (Vocabulary.namesakeVocabulary "s" "Department") ∧
      outputNames (assemble (Vocabulary.namesakeVocabulary "s" "Department") .dollar
          Vocabulary.rankedIntent).sql =
        ["department".toList, "label".toList, "Department".toList] ∧
      ¬Resolves (assemble (Vocabulary.namesakeVocabulary "s" "Department") .dollar
        Vocabulary.rankedIntent).sql) := by
  obtain ⟨aliasesRead, outputsRead⟩ := Vocabulary.read_namesakeSources
  have aliases : tableAliases
      (assemble (Vocabulary.namesakeVocabulary "R" "total") .dollar {}).sql =
        ["r".toList, "R".toList] :=
    ((Vocabulary.wellFormed_of_read aliasesRead).names_sql .dollar {}).1
  have outputs : outputNames (assemble (Vocabulary.namesakeVocabulary "s" "Department") .dollar
      Vocabulary.rankedIntent).sql =
        ["department".toList, "label".toList, "Department".toList] :=
    ((Vocabulary.wellFormed_of_read outputsRead).names_sql .dollar Vocabulary.rankedIntent).2
  refine ⟨⟨aliasesRead, aliases, fun resolves => ?_⟩, outputsRead, outputs, fun resolves => ?_⟩
  · have distinct := resolves.aliases
    rw [aliases] at distinct
    revert distinct
    decide
  · have distinct := resolves.outputs
    rw [outputs] at distinct
    revert distinct
    decide

end Inquiry
