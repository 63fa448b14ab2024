import Inquiry.Proofs.Text.Runs
import Inquiry.Statement.Basic

/-!
# Reading statements piece by piece

A statement is written from names, marks and fixed connecting texts.  Between
them stand gaps: blanks, line feeds, commas and parentheses.

A reading of texts is piecewise when it may be taken apart at every gap.  If it
also finds nothing in the connecting texts, then all that it finds in a statement
it finds in the expressions, names and conditions that the statement is made of.
-/

namespace Inquiry

/-- A character that stands between the parts of a statement. -/
def Statement.isGap (c : Char) : Bool :=
  [' ', '\n', ',', '(', ')'].contains c

open Statement (isGap)

/-- A class that leaves out the five gaps has no gap in it. -/
theorem Statement.outside_of_gaps {inClass : Char → Bool}
    (outside : [' ', '\n', ',', '(', ')'].all (fun gap => !inClass gap) = true) :
    ∀ gap, isGap gap = true → inClass gap = false := by
  intro gap member
  have here := List.all_eq_true.mp outside gap (List.contains_iff_mem.mp member)
  simpa using here

/-- Two kinds of texts by turns: each pair adds its first and then its second. -/
def Text.weave : List (Text × Text) → Text
  | [] => []
  | (first, second) :: rest => first ++ (second ++ weave rest)

/-- A reading that finds in a text what it finds on both sides of a gap. -/
structure Piecewise {β : Type} (read : Text → List β) : Prop where
  nil : read [] = []
  cut : ∀ (left : Text) {gap : Char} (right : Text), isGap gap = true →
    read (left ++ gap :: right) = read left ++ read right

/-- The fixed texts between the names and marks of a statement, apart from the keyword
of its row limit. -/
def Statement.connectives : List Text :=
  ["SELECT\n  ", ",\n  ", "FROM ", " AS ", "INNER JOIN ", " ON ", " = ",
   "WHERE ", "\n  AND ", " IN (", ", ", "(", ")", "GROUP BY ", "ORDER BY ", " ", "\n"]

/-- Every connecting text ends with a gap. -/
theorem Statement.connectives_end :
    ∀ glue ∈ Statement.connectives, glue.getLast?.any isGap = true := by
  decide

namespace Piecewise

variable {β : Type} {read : Text → List β}

/-- Runs are read piecewise if no gap belongs to their class. -/
theorem of_runs {inClass : Char → Bool}
    (outside : ∀ gap, isGap gap = true → inClass gap = false) :
    Piecewise (Text.runs inClass) where
  nil := Text.runs_nil
  cut left gap right member := Text.runs_append_cons (outside gap member) left right

/-- Characters are read one by one. -/
theorem of_filter {accepts : Char → Bool}
    (outside : ∀ gap, isGap gap = true → accepts gap = false) :
    Piecewise (List.filter accepts) where
  nil := rfl
  cut left gap right member := by simp [outside gap member]

/-- What is found may be sorted out. -/
theorem filter (piecewise : Piecewise read) (keep : β → Bool) :
    Piecewise fun text => (read text).filter keep where
  nil := by rw [piecewise.nil, List.filter_nil]
  cut left gap right member := by rw [piecewise.cut left right member, List.filter_append]

/-- What is found is found in the runs between the gaps. -/
theorem flatMap_tokens (piecewise : Piecewise read) (text : Text) :
    (Text.runs (fun c => !isGap c) text).flatMap read = read text := by
  have alone : ∀ piece : Text, (∀ c ∈ piece, (!isGap c) = true) →
      (Text.runs (fun c => !isGap c) piece).flatMap read = read piece := by
    intro piece inside
    by_cases empty : piece = []
    · simp [empty, piecewise.nil]
    · simp [Text.runs_eq_singleton empty inside]
  induction text using Text.runs_induction (fun c => !isGap c) with
  | whole piece inside => exact alone piece inside
  | cut piece gap rest inside outside ih =>
      have member : isGap gap = true := by simpa using outside
      rw [Text.runs_append_cons outside, List.flatMap_append, alone piece inside, ih,
        piecewise.cut piece rest member]

/-! ## Gaps at the ends -/

theorem cons (piecewise : Piecewise read) {gap : Char} (member : isGap gap = true)
    (right : Text) : read (gap :: right) = read right := by
  simpa [piecewise.nil] using piecewise.cut [] right member

theorem concat (piecewise : Piecewise read) {gap : Char} (member : isGap gap = true)
    (left : Text) : read (left ++ [gap]) = read left := by
  simpa [piecewise.nil] using piecewise.cut left [] member

theorem append_of_ends (piecewise : Piecewise read) {left : Text}
    (ends : left.getLast?.any isGap = true) (right : Text) :
    read (left ++ right) = read left ++ read right := by
  rcases List.eq_nil_or_concat' left with rfl | ⟨front, gap, rfl⟩
  · simp at ends
  · have member : isGap gap = true := by simpa using ends
    rw [List.append_assoc, List.singleton_append, piecewise.cut front right member,
      piecewise.concat member]

theorem append_of_begins (piecewise : Piecewise read) {right : Text}
    (begins : right.head?.any isGap = true) (left : Text) :
    read (left ++ right) = read left ++ read right := by
  cases right with
  | nil => simp at begins
  | cons gap rest =>
      have member : isGap gap = true := by simpa using begins
      rw [piecewise.cut left rest member, piecewise.cons member]

/-- A silent text that ends with a gap may stand in front. -/
theorem lead (piecewise : Piecewise read) {glue : Text} (silent : read glue = [])
    (ends : glue.getLast?.any isGap = true) (right : Text) :
    read (glue ++ right) = read right := by
  rw [piecewise.append_of_ends ends, silent, List.nil_append]

/-- A silent text that begins with a gap may stand behind. -/
theorem trail (piecewise : Piecewise read) {glue : Text} (silent : read glue = [])
    (begins : glue.head?.any isGap = true) (left : Text) :
    read (left ++ glue) = read left := by
  rw [piecewise.append_of_begins begins, silent, List.append_nil]

/-- A silent text with gaps at both ends may stand between. -/
theorem between (piecewise : Piecewise read) {glue : Text} (silent : read glue = [])
    (begins : glue.head?.any isGap = true) (ends : glue.getLast?.any isGap = true)
    (left right : Text) : read (left ++ glue ++ right) = read left ++ read right := by
  rw [List.append_assoc, piecewise.append_of_begins, piecewise.lead silent ends]
  cases glue with
  | nil => simp at begins
  | cons gap rest => simpa using begins

/-- A silent separator with gaps at both ends leaves the pieces to be read. -/
theorem join (piecewise : Piecewise read) {separator : Text}
    (silent : read separator = []) (begins : separator.head?.any isGap = true)
    (ends : separator.getLast?.any isGap = true) (pieces : List Text) :
    read (Text.join separator pieces) = pieces.flatMap read := by
  induction pieces with
  | nil => simp [piecewise.nil]
  | cons first rest ih =>
      cases rest with
      | nil => simp
      | cons second others =>
          rw [Text.join_cons_cons, piecewise.between silent begins ends, ih,
            List.flatMap_cons (x := first)]

end Piecewise

/-! ## Whole statements -/

/-- The names that an expression is written from. -/
def Expression.names : Expression → List Text
  | column name => [name]
  | call function argument => [function, argument]

/-- The names that a select item is written from. -/
def SelectItem.names (item : SelectItem) : List Text :=
  item.expression.names ++ item.output.toList

namespace Statement

/-- The names that a statement writes before its conditions, in order. -/
def namesBefore (statement : Statement) : List Text :=
  let fact := statement.contract.fact
  let dimension := statement.contract.dimension
  statement.items.flatMap (·.names) ++
    [fact.table, fact.shortName, dimension.table, dimension.shortName,
     fact.column fact.departmentKey, dimension.column dimension.key]

/-- The names that a statement writes after its conditions, in order. -/
def namesAfter (statement : Statement) : List Text :=
  statement.groupKeys ++ statement.orderKey.names ++ [Tagged.tag statement.direction]

end Statement

/-- A piecewise reading that finds nothing in the connecting texts. -/
structure Statement.Reading {β : Type} (read : Text → List β) : Prop
    extends Piecewise read where
  silent : ∀ glue ∈ Statement.connectives, read glue = []

namespace Statement.Reading

variable {β : Type} {read : Text → List β}

theorem read_expression (reading : Reading read) (expression : Expression) :
    read expression.render = expression.names.flatMap read := by
  cases expression with
  | column name => simp [Expression.render, Expression.names]
  | call function argument =>
      have parted := reading.between (reading.silent "(" (by decide)) rfl rfl
      rw [Expression.render, reading.trail (reading.silent ")" (by decide)) rfl, parted]
      simp [Expression.names]

theorem read_item (reading : Reading read) (item : SelectItem) :
    read item.render = item.names.flatMap read := by
  have expressionRead := reading.read_expression item.expression
  cases output : item.output with
  | none => simp [SelectItem.render, SelectItem.names, output, expressionRead]
  | some name =>
      have parted := reading.between (reading.silent " AS " (by decide)) rfl rfl
      simp only [SelectItem.render, output, SelectItem.names, List.flatMap_append,
        Option.toList_some, List.flatMap_singleton, ← expressionRead]
      exact parted _ _

theorem read_equals (reading : Reading read) (style : ParamStyle) (bound : Nat)
    (column value : Text) :
    read ((Condition.equals column value).render style bound) =
      read column ++ read (style.placeholder (bound + 1)) :=
  reading.between (reading.silent " = " (by decide)) rfl rfl _ _

theorem read_among (reading : Reading read) (style : ParamStyle) (bound : Nat)
    (column : Text) (values : List Text) :
    read ((Condition.among column values).render style bound) =
      read column ++
        (style.placeholders bound values.length).flatMap read := by
  have parted := reading.between (reading.silent " IN (" (by decide)) rfl rfl
  have listed := reading.join (reading.silent ", " (by decide)) rfl rfl
  rw [Condition.render, reading.trail (reading.silent ")" (by decide)) rfl, parted,
    listed]

/-- Connecting texts and pieces by turns are read as the pieces. -/
theorem read_weave (reading : Reading read) (parts : List (Text × Text))
    (known : ∀ part ∈ parts, part.1 ∈ connectives)
    (begins : ∀ part ∈ parts.tail, part.1.head?.any isGap = true) :
    read (Text.weave parts) = parts.flatMap fun part => read part.2 := by
  induction parts with
  | nil => simp [Text.weave, reading.nil]
  | cons part rest ih =>
      have here : part.1 ∈ connectives := known part (by simp)
      have later : read (Text.weave rest) = rest.flatMap fun part => read part.2 :=
        ih (fun part member => known part (by simp [member]))
          (fun part member => begins part (List.mem_of_mem_tail member))
      rw [Text.weave, reading.lead (reading.silent _ here) (connectives_end _ here),
        List.flatMap_cons, ← later]
      cases rest with
      | nil => simp [Text.weave, reading.nil]
      | cons next others =>
          apply reading.append_of_begins
          have gap := begins next (by simp)
          cases glue : next.1 with
          | nil => simp [glue] at gap
          | cons c glueRest => simpa [Text.weave, glue] using gap

theorem read_fromLine (reading : Reading read) (contract : SchemaContract) :
    read (fromLine contract) =
      read contract.fact.table ++ read contract.fact.shortName := by
  have woven : fromLine contract = Text.weave
      [("FROM ", contract.fact.table), (" AS ", contract.fact.shortName)] := by
    unfold fromLine
    simp only [Text.weave, List.append_assoc, List.append_nil]
  rw [woven, reading.read_weave _ (by simp [connectives]) (by simp [isGap])]
  simp

theorem read_joinLine (reading : Reading read) (contract : SchemaContract) :
    read (joinLine contract) =
      read contract.dimension.table ++ read contract.dimension.shortName ++
        read (contract.fact.column contract.fact.departmentKey) ++
        read (contract.dimension.column contract.dimension.key) := by
  have woven : joinLine contract = Text.weave
      [("INNER JOIN ", contract.dimension.table),
       (" AS ", contract.dimension.shortName),
       (" ON ", contract.fact.column contract.fact.departmentKey),
       (" = ", contract.dimension.column contract.dimension.key)] := by
    unfold joinLine
    simp only [Text.weave, List.append_assoc, List.append_nil]
  rw [woven, reading.read_weave _ (by simp [connectives]) (by simp [isGap])]
  simp

theorem read_order (reading : Reading read) (key direction : Text) :
    read ("ORDER BY " ++ key ++ " " ++ direction) = read key ++ read direction := by
  have woven : "ORDER BY " ++ key ++ " " ++ direction =
      Text.weave [("ORDER BY ", key), (" ", direction)] := by
    simp only [Text.weave, List.append_assoc, List.append_nil]
  rw [woven, reading.read_weave _ (by simp [connectives]) (by simp [isGap])]
  simp

/-- A clause is read as its parts, whether it is written or left out. -/
theorem flatMap_clause (reading : Reading read) {keyword separator : Text}
    (keywordSilent : read keyword = []) (keywordEnds : keyword.getLast?.any isGap = true)
    (separatorSilent : read separator = [])
    (begins : separator.head?.any isGap = true)
    (ends : separator.getLast?.any isGap = true) (parts : List Text) :
    (clause keyword separator parts).flatMap read = parts.flatMap read := by
  cases parts with
  | nil => rfl
  | cons part rest =>
      have listed := reading.join separatorSilent begins ends (part :: rest)
      simp only [clause, List.isEmpty_cons, Bool.false_eq_true, if_false,
        List.flatMap_cons (x := keyword ++ _), List.flatMap_nil, List.append_nil]
      rw [reading.lead keywordSilent keywordEnds, listed]

/-- A row limit is silent if its keyword and all numbers are. -/
theorem read_limit (reading : Reading read) (keyword : read "LIMIT " = [])
    (numbers : ∀ n, read (Decimal.ofNat n) = []) (limit : Option Nat) :
    limit.elim [] (fun limit => read ("LIMIT ".toList ++ Decimal.ofNat limit)) = [] := by
  cases limit with
  | none => rfl
  | some limit => rw [Option.elim_some, reading.lead keyword rfl, numbers limit]

/-- A whole statement is read as the names, conditions and row limit that it writes. -/
theorem read_render (reading : Reading read) (style : ParamStyle)
    (statement : Statement) :
    read (statement.render style) =
      statement.namesBefore.flatMap read ++
        (Condition.renderAll style 0 statement.conditions).flatMap read ++
        statement.namesAfter.flatMap read ++
        statement.limit.elim [] (fun limit => read ("LIMIT " ++ Decimal.ofNat limit)) := by
  have items := reading.flatMap_clause (reading.silent "SELECT\n  " (by decide)) rfl
    (reading.silent ",\n  " (by decide)) rfl rfl (statement.items.map (·.render))
  have conditions := reading.flatMap_clause (reading.silent "WHERE " (by decide)) rfl
    (reading.silent "\n  AND " (by decide)) rfl rfl
    (Condition.renderAll style 0 statement.conditions)
  have groups := reading.flatMap_clause (reading.silent "GROUP BY " (by decide)) rfl
    (reading.silent ", " (by decide)) rfl rfl statement.groupKeys
  have order := reading.read_order statement.orderKey.render
    (Tagged.tag statement.direction)
  have limits : (statement.limit.map fun limit =>
        "LIMIT ".toList ++ Decimal.ofNat limit).toList.flatMap read =
      statement.limit.elim [] (fun limit => read ("LIMIT ".toList ++ Decimal.ofNat limit)) := by
    cases statement.limit with
    | none => rfl
    | some limit => exact List.append_nil _
  rw [render, reading.join (reading.silent "\n" (by decide)) rfl rfl, clauses]
  simp only [List.flatMap_append, items, conditions, groups, limits, List.flatMap_map,
    List.flatMap_cons, List.flatMap_nil, List.append_nil, order, reading.read_item,
    reading.read_expression, reading.read_fromLine, reading.read_joinLine]
  simp only [namesBefore, namesAfter, List.flatMap_append, List.flatMap_cons,
    List.flatMap_nil, List.flatMap_assoc, List.append_nil, List.append_assoc]

end Statement.Reading

end Inquiry
