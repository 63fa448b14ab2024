import Inquiry.Catalog.Basic

/-!
# Catalogs from table definitions

Table definitions carry typed columns and references to other tables.  A
catalog lists the tables so that each one stands after the tables it refers to,
and otherwise by name.
-/

namespace Inquiry

/-- A defined column. -/
structure ColumnDefinition where
  name : Text
  /-- The name of the column type; none leaves the type open. -/
  typeName : Option Text := none
  /-- The sizes given with the type. -/
  sizes : List Int := []
  primaryKey : Bool := false
  nullable : Bool := true
  /-- The column referred to, as table and column with a point between them. -/
  reference : Option Text := none

/-- A defined table. -/
structure TableDefinition where
  name : Text
  schema : Option Text := none
  columns : List ColumnDefinition := []

/-- A type with its sizes in parentheses. -/
def sized (type : Text) (sizes : List Int) : Text :=
  if sizes.isEmpty then type
  else type ++ "(" ++ Text.join ", " (sizes.map Decimal.ofInt) ++ ")"

/-- The names of the column types that have a fixed text. -/
def fixedTypes : List (Text × Text) :=
  [("Integer", "integer"), ("BigInteger", "bigint"), ("SmallInteger", "smallint"),
   ("Date", "date"), ("DateTime", "datetime"), ("Time", "time"),
   ("Boolean", "boolean"), ("Float", "float"), ("LargeBinary", "blob"),
   ("JSON", "json")]

/-- The names of the column types whose sizes are shown. -/
def sizedTypes : List (Text × Text) :=
  [("String", "varchar"), ("Unicode", "varchar"), ("Text", "text"),
   ("UnicodeText", "text"), ("Numeric", "numeric")]

namespace ColumnDefinition

/-- How a catalog shows the type. -/
def typeText (column : ColumnDefinition) : Text :=
  match column.typeName with
  | none => "null"
  | some name =>
      match fixedTypes.lookup name, sizedTypes.lookup name with
      | some type, _ => type
      | none, some type => sized type column.sizes
      | none, none => Text.lower name

/-- The key of the table referred to. -/
def referredTable? (column : ColumnDefinition) : Option Text :=
  column.reference.map fun reference =>
    ((reference.reverse.dropWhile (· ≠ '.')).drop 1).reverse

/-- The column as a catalog describes it. -/
def describe (column : ColumnDefinition) : Column :=
  { name := .text column.name
    type := column.typeText
    nullable := column.nullable
    primaryKey := column.primaryKey }

end ColumnDefinition

namespace TableDefinition

/-- The name of the table within all schemas. -/
def key (table : TableDefinition) : Text :=
  match table.schema with
  | some schema => schema ++ "." ++ table.name
  | none => table.name

/-- The keys of the other tables that a table refers to. -/
def references (table : TableDefinition) : List Text :=
  (table.columns.filterMap (·.referredTable?)).filter (· != table.key)

/-- The table as a catalog describes it. -/
def describe (table : TableDefinition) : Table :=
  { name := .text table.name, columns := table.columns.map (·.describe) }

/-- One table after another, round by round: a round takes every table that
refers to none of the tables left.  Tables that refer to each other in a circle
are left in their order. -/
def inRounds : (rounds : Nat) → List TableDefinition → List TableDefinition
  | 0, left => left
  | rounds + 1, left =>
      let keys := left.map (·.key)
      let free (table : TableDefinition) : Bool :=
        !table.references.any keys.contains
      let taken := left.filter free
      if taken.isEmpty then left
      else taken ++ inRounds rounds (left.filter fun table => !free table)

/-- The tables by key, each after the tables it refers to. -/
def inOrder (tables : List TableDefinition) : List TableDefinition :=
  let sorted := tables.mergeSort fun left right => !Text.precedes right.key left.key
  inRounds tables.length sorted

end TableDefinition

/-- The catalog of defined tables.  Every reference has to name one of them. -/
def Catalog.ofDefinitions (tables : List TableDefinition) (schemaName : Value) :
    Except Fault Catalog :=
  let keys := tables.map (·.key)
  let known := tables.all fun table => table.references.all keys.contains
  if known then
    .ok { tables := (TableDefinition.inOrder tables).map (·.describe), schemaName }
  else .error .unknownReferredTable

end Inquiry
