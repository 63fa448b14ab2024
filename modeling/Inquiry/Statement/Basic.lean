import Inquiry.Decimal.Integer
import Inquiry.Vocabulary.Basic

/-!
# Statements

A statement selects from the fact table joined with the dimension table.  Only
names of the schema contract, output names of rules and date predicates are
written into its text; every other value is bound as a parameter.

Parameters are numbered in the order in which the conditions bind them.
-/

namespace Inquiry

/-- A column, or an aggregate function of a column. -/
inductive Expression where
  | column (name : Text)
  | call (function argument : Text)
  deriving Repr, DecidableEq

/-- The text of an expression. -/
def Expression.render : Expression → Text
  | column name => name
  | call function argument => function ++ "(" ++ argument ++ ")"

/-- An expression of the select list, with its output name if it gets one. -/
structure SelectItem where
  expression : Expression
  output : Option Text := none
  deriving Repr, DecidableEq

/-- The text of a select item. -/
def SelectItem.render (item : SelectItem) : Text :=
  match item.output with
  | some name => item.expression.render ++ " AS " ++ name
  | none => item.expression.render

/-- A condition on the selected rows. -/
inductive Condition where
  /-- The column equals a bound value. -/
  | equals (column value : Text)
  /-- A condition given as text, with the values that it binds itself. -/
  | given (predicate : Text) (values : List Text)
  /-- The column equals one of several bound values. -/
  | among (column : Text) (values : List Text)
  deriving Repr, DecidableEq

/-- The values that a condition binds, in order. -/
def Condition.parameters : Condition → List Text
  | equals _ value => [value]
  | given _ values => values
  | among _ values => values

/-- The mark for the parameter at a position, which counts from one. -/
def ParamStyle.placeholder : ParamStyle → Nat → Text
  | .dollar, position => "$" ++ Decimal.ofNat position
  | .qmark, _ => "?"

/-- The marks for `count` parameters after those already bound. -/
def ParamStyle.placeholders (style : ParamStyle) (bound count : Nat) : List Text :=
  (List.range count).map fun offset => style.placeholder (bound + offset + 1)

/-- The text of a condition after `bound` parameters. -/
def Condition.render (style : ParamStyle) (bound : Nat) : Condition → Text
  | equals column _ => column ++ " = " ++ style.placeholder (bound + 1)
  | given predicate _ => predicate
  | among column values =>
      column ++ " IN (" ++
        Text.join ", " (style.placeholders bound values.length) ++ ")"

/-- The texts of conditions, the first of them after `bound` parameters. -/
def Condition.renderAll (style : ParamStyle) : (bound : Nat) → List Condition → List Text
  | _, [] => []
  | bound, condition :: rest =>
      condition.render style bound ::
        renderAll style (bound + condition.parameters.length) rest

/-- A select statement. -/
structure Statement where
  items : List SelectItem
  contract : SchemaContract
  conditions : List Condition
  groupKeys : List Text
  orderKey : Expression
  direction : SortDirection
  limit : Option Nat
  deriving Repr, DecidableEq

namespace Statement

/-- The bound values, in the order of their marks. -/
def parameters (statement : Statement) : List Text :=
  statement.conditions.flatMap (·.parameters)

/-- The source of the rows. -/
def fromLine (contract : SchemaContract) : Text :=
  "FROM " ++ contract.fact.table ++ " AS " ++ contract.fact.shortName

/-- The join of the two tables. -/
def joinLine (contract : SchemaContract) : Text :=
  "INNER JOIN " ++ contract.dimension.table ++ " AS " ++
    contract.dimension.shortName ++ " ON " ++
    contract.fact.column contract.fact.departmentKey ++ " = " ++
    contract.dimension.column contract.dimension.key

/-- A clause that is left out when it has no parts. -/
def clause (keyword separator : Text) (parts : List Text) : List Text :=
  if parts.isEmpty then [] else [keyword ++ Text.join separator parts]

/-- The clauses of a statement, in their fixed order. -/
def clauses (style : ParamStyle) (statement : Statement) : List Text :=
  let source : List Text := [fromLine statement.contract, joinLine statement.contract]
  clause "SELECT\n  " ",\n  " (statement.items.map (·.render)) ++
  source ++
  clause "WHERE " "\n  AND " (Condition.renderAll style 0 statement.conditions) ++
  clause "GROUP BY " ", " statement.groupKeys ++
  ["ORDER BY " ++ statement.orderKey.render ++ " " ++ Tagged.tag statement.direction] ++
  (statement.limit.map fun limit => "LIMIT " ++ Decimal.ofNat limit).toList

/-- The text of a statement. -/
def render (style : ParamStyle) (statement : Statement) : Text :=
  Text.join "\n" (statement.clauses style)

end Statement

end Inquiry
