import Inquiry.Proofs.Text.Basic
import Inquiry.Statement.Basic

/-!
# The lines of a statement

A statement is a list of clauses, each on lines of its own: what is selected, the
two tables, the conditions and group keys, the order of the rows, and the row
limit.
-/

namespace Inquiry

namespace Statement

/-- The statement without its row limit. -/
def unlimited (statement : Statement) : Statement :=
  { statement with limit := none }

/-- The clauses between the source of the rows and the row limit. -/
def middleClauses (style : ParamStyle) (statement : Statement) : List Text :=
  clause "WHERE " "\n  AND " (Condition.renderAll style 0 statement.conditions) ++
  clause "GROUP BY " ", " statement.groupKeys

/-- The clause that orders the rows. -/
def orderLine (statement : Statement) : Text :=
  "ORDER BY " ++ statement.orderKey.render ++ " " ++ Tagged.tag statement.direction

variable {style : ParamStyle} {statement : Statement}

theorem clauses_unlimited :
    statement.unlimited.clauses style =
      clause "SELECT\n  " ",\n  " (statement.items.map (·.render)) ++
        [fromLine statement.contract, joinLine statement.contract] ++
        statement.middleClauses style ++ [statement.orderLine] := by
  rw [clauses, middleClauses]
  exact (List.append_nil _).trans
    (congrArg (· ++ [statement.orderLine]) (List.append_assoc _ _ _))

/-- The row limit is the last line. -/
theorem render_unlimited :
    statement.render style = statement.unlimited.render style ++
      statement.limit.elim [] (fun limit => "\nLIMIT ".toList ++ Decimal.ofNat limit) := by
  have split : statement.clauses style = statement.unlimited.clauses style ++
      (statement.limit.map fun limit => "LIMIT ".toList ++ Decimal.ofNat limit).toList := by
    rw [clauses, clauses]
    exact congrArg (· ++ _) (List.append_nil _).symm
  rw [render, render, split]
  cases statement.limit with
  | none => simp only [Option.map_none, Option.toList_none, List.append_nil, Option.elim_none]
  | some limit =>
      have nonempty : statement.unlimited.clauses style ≠ [] := by
        rw [clauses_unlimited]
        exact List.append_ne_nil_of_right_ne_nil _ (List.cons_ne_nil _ _)
      simp only [Option.map_some, Option.toList_some, Option.elim_some]
      rw [Text.join_concat nonempty, List.append_assoc]
      rfl

/-- The order of the rows is written last but for the row limit. -/
theorem exists_order (style : ParamStyle) (statement : Statement) :
    ∃ before, statement.unlimited.render style =
      before ++ statement.orderKey.render ++ " " ++ Tagged.tag statement.direction := by
  have regroup : ∀ before keyword key separator tag : Text,
      before ++ (keyword ++ key ++ separator ++ tag) =
        before ++ keyword ++ key ++ separator ++ tag := by
    simp only [List.append_assoc, implies_true]
  rw [render, clauses_unlimited, Text.join_concat
    (List.append_ne_nil_of_left_ne_nil
      (List.append_ne_nil_of_right_ne_nil _ (List.cons_ne_nil _ _)) _)]
  exact ⟨_, regroup _ _ _ _ _⟩

/-- The lines behind the join of the tables. -/
def laterLines (style : ParamStyle) (statement : Statement) : Text :=
  Text.join "\n" (statement.middleClauses style ++ [statement.orderLine])

theorem laterLines_ne_nil (style : ParamStyle) (statement : Statement) :
    statement.laterLines style ≠ [] := by
  have keyword : "ORDER BY ".toList ≠ [] := by decide
  have ordered : statement.orderLine ≠ [] :=
    List.append_ne_nil_of_left_ne_nil (List.append_ne_nil_of_left_ne_nil
      (List.append_ne_nil_of_left_ne_nil keyword _) _) _
  rw [laterLines]
  cases statement.middleClauses style with
  | nil => exact ordered
  | cons first rest =>
      rw [Text.join_concat (List.cons_ne_nil _ _)]
      exact List.append_ne_nil_of_right_ne_nil _ ordered

/-- A statement selects, names its two tables and goes on with the later lines. -/
theorem render_eq_lines (nonempty : statement.items ≠ []) :
    statement.unlimited.render style =
      "SELECT\n  ".toList ++ Text.join ",\n  " (statement.items.map (·.render)) ++
        "\n".toList ++ (fromLine statement.contract ++ "\n" ++
          joinLine statement.contract ++ "\n") ++ statement.laterLines style := by
  have written : clause "SELECT\n  " ",\n  " (statement.items.map (·.render)) =
      ["SELECT\n  ".toList ++ Text.join ",\n  " (statement.items.map (·.render))] := by
    rw [clause, if_neg (by simpa using nonempty)]
  obtain ⟨first, others, later⟩ : ∃ first others,
      statement.middleClauses style ++ [statement.orderLine] = first :: others :=
    List.exists_cons_of_ne_nil (List.append_ne_nil_of_right_ne_nil _ (List.cons_ne_nil _ _))
  rw [render, clauses_unlimited, written, List.append_assoc, laterLines, later]
  generalize "SELECT\n  ".toList ++ Text.join ",\n  " (statement.items.map (·.render)) = front
  simp only [List.cons_append, List.nil_append, Text.join_cons_cons, List.append_assoc]

/-- The clauses before the conditions. -/
def openingClauses (statement : Statement) : List Text :=
  clause "SELECT\n  " ",\n  " (statement.items.map (·.render)) ++
  [fromLine statement.contract, joinLine statement.contract]

/-- The clauses behind the conditions. -/
def closingClauses (statement : Statement) : List Text :=
  clause "GROUP BY " ", " statement.groupKeys ++ [statement.orderLine] ++
  (statement.limit.map fun limit => "LIMIT ".toList ++ Decimal.ofNat limit).toList

/-- Only the conditions depend on the style. -/
theorem clauses_eq_around (style : ParamStyle) (statement : Statement) :
    statement.clauses style = statement.openingClauses ++
      clause "WHERE " "\n  AND " (Condition.renderAll style 0 statement.conditions) ++
      statement.closingClauses := by
  have regroup : ∀ opening conditions groups order limit : List Text,
      opening ++ conditions ++ groups ++ order ++ limit =
        opening ++ conditions ++ (groups ++ order ++ limit) := by
    simp only [List.append_assoc, implies_true]
  exact regroup _ _ _ _ _

theorem clause_conditions (style : ParamStyle) (nonempty : statement.conditions ≠ []) :
    clause "WHERE " "\n  AND " (Condition.renderAll style 0 statement.conditions) =
      ["WHERE ".toList ++
        Text.join "\n  AND " (Condition.renderAll style 0 statement.conditions)] := by
  obtain ⟨condition, rest, found⟩ := List.exists_cons_of_ne_nil nonempty
  rw [clause, if_neg (by simp [found, Condition.renderAll])]

/-- The conditions of a statement stand in it in order, and the text around them is the
same in every style. -/
theorem exists_around_conditions (statement : Statement) :
    ∃ before after, ∀ style, statement.render style =
      before ++ (Text.join "\n  AND " (Condition.renderAll style 0 statement.conditions) ++
        after) := by
  by_cases nonempty : statement.conditions = []
  · refine ⟨statement.render .dollar, [], fun style => ?_⟩
    have unconditioned : statement.clauses style = statement.clauses .dollar := by
      rw [clauses, clauses, nonempty, Condition.renderAll, Condition.renderAll]
    rw [render, unconditioned, nonempty, Condition.renderAll, Text.join_nil]
    exact (List.append_nil _).symm
  · obtain ⟨before, after, joined⟩ :=
      Text.exists_around_piece "\n" statement.openingClauses statement.closingClauses
    refine ⟨before ++ "WHERE ".toList, after, fun style => ?_⟩
    rw [render, clauses_eq_around, clause_conditions style nonempty, List.append_assoc,
      List.singleton_append, joined]
    simp only [List.append_assoc]

/-- The text of a statement depends on its conditions through their texts alone. -/
theorem render_congr {first second : Statement} (items : first.items = second.items)
    (contract : first.contract = second.contract)
    (conditions : Condition.renderAll style 0 first.conditions =
      Condition.renderAll style 0 second.conditions)
    (groupKeys : first.groupKeys = second.groupKeys)
    (orderKey : first.orderKey = second.orderKey)
    (direction : first.direction = second.direction) (limit : first.limit = second.limit) :
    first.render style = second.render style := by
  rw [render, render, clauses, clauses, items, contract, conditions, groupKeys, orderKey,
    direction, limit]

end Statement

end Inquiry
