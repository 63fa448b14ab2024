import Inquiry.Fault
import Inquiry.Text.Case

/-!
# Catalogs

A catalog describes the tables and columns of a database.  Names are kept as
they were given, which need not be texts; a look-up that meets a name of another
kind cannot go on.

Look-ups ignore case, and a table is found under its full name as well as under
the part after the last point.
-/

namespace Inquiry

/-- A described column. -/
structure Column where
  name : Value
  type : Text := []
  nullable : Bool := true
  primaryKey : Bool := false

/-- A described table. -/
structure Table where
  name : Value
  columns : List Column := []

/-- A described database. -/
structure Catalog where
  tables : List Table := []
  schemaName : Value := .text "public"

/-- The small form of a name, which has to be a text. -/
def smallName (name : Value) : Except Fault Text :=
  match name with
  | .text content => .ok (Text.lower content)
  | _ => .error .wrongType

/-- The first element that a test accepts, where the test may fail. -/
def firstAccepted {α : Type} (accepts : α → Except Fault Bool) :
    List α → Except Fault (Option α)
  | [] => .ok none
  | element :: rest => do
      if ← accepts element then return some element
      else firstAccepted accepts rest

namespace Table

/-- The column of a name. -/
def column (table : Table) (name : Text) : Except Fault (Option Column) :=
  firstAccepted (fun column => return (← smallName column.name) == Text.lower name)
    table.columns

/-- The names of the columns, in order. -/
def columnNames (table : Table) : List Value :=
  table.columns.map (·.name)

end Table

namespace Catalog

/-- A name in small letters and the part of it after the last point. -/
def sameTable (left right : Text) : Bool :=
  left == right || Text.afterLast '.' left == Text.afterLast '.' right

/-- The first table of a name. -/
def table (catalog : Catalog) (name : Text) : Except Fault (Option Table) :=
  firstAccepted (fun table => return sameTable (← smallName table.name) (Text.lower name))
    catalog.tables

/-- The names of the tables, in order. -/
def tableNames (catalog : Catalog) : List Value :=
  catalog.tables.map (·.name)

end Catalog

end Inquiry
