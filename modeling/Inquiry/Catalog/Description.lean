import Inquiry.Catalog.Basic
import Inquiry.Text.Blank
import Inquiry.Vocabulary.Reader

/-!
# Catalogs as descriptions

A schema description lists tables with their columns, under a long or a short
spelling of each key.  Writing a catalog uses the long spellings.
-/

namespace Inquiry

/-- The value under the first of two keys that is given. -/
def eitherKey (first second : Text) (default : Value)
    (entries : List (Value × Value)) : Value :=
  ((Value.lookup? first entries).orElse
    fun _ => Value.lookup? second entries).getD default

/-- The name under a long key, or else under the key `name`, which then has to
be there. -/
def givenName (long : Text) (entries : List (Value × Value)) : Except Fault Value :=
  let short : Except Fault Value :=
    match Value.lookup? "name" entries with
    | some name => .ok name
    | none => .error (.missingKey "name")
  match Value.lookup? long entries with
  | some name => if name.isPresent then .ok name else short
  | none => short

/-- Whether a column may be empty; the answer may be given in words. -/
def readsAsNullable : Value → Bool
  | .text content =>
      let word := Text.upper (Text.strip content)
      word == ("YES" : Text) || word == ("TRUE" : Text)
  | value => value.isPresent

/-- The items under a key, none if the key is absent or empty. -/
def listed (key : Text) (entries : List (Value × Value)) :
    Except Fault (List Value) :=
  (Vocabulary.presentOr (.list []) (Value.lookup? key entries)).elements

/-- Reads the description of a column. -/
def Column.read (raw : Value) : Except Fault Column := do
  let entries ← raw.entries
  let name ← givenName "column_name" entries
  let type ← (eitherKey "data_type" "type" (.text []) entries).write
  return {
    name
    type
    nullable := readsAsNullable (eitherKey "is_nullable" "nullable" (.bool true) entries)
    primaryKey :=
      (eitherKey "is_primary_key" "primary_key" (.bool false) entries).isPresent }

/-- Reads the description of a table. -/
def Table.read (raw : Value) : Except Fault Table := do
  let entries ← raw.entries
  let name ← givenName "table_name" entries
  let columns ← (← listed "columns" entries).mapM Column.read
  return { name, columns }

namespace Catalog

/-- Reads the description of a schema. -/
def read (entries : List (Value × Value)) : Except Fault Catalog := do
  let tables ← (← listed "tables" entries).mapM Table.read
  return {
    tables
    schemaName :=
      Vocabulary.presentOr (.text "public") (Value.lookup? "schema_name" entries) }

/-- The catalog that a value describes; null describes none. -/
def ofValue? : Value → Except Fault (Option Catalog)
  | .null => .ok none
  | .mapping entries => (read entries).map some
  | value => .error (.unsupportedSchema value.kindName)

end Catalog

/-- Describes a column. -/
def Column.describe (column : Column) : Value :=
  .record
    [("column_name", column.name),
     ("data_type", .text column.type),
     ("is_nullable", .bool column.nullable),
     ("is_primary_key", .bool column.primaryKey)]

/-- Describes a table. -/
def Table.describe (table : Table) : Value :=
  .record
    [("table_name", table.name),
     ("columns", .list (table.columns.map (·.describe)))]

/-- Describes a catalog. -/
def Catalog.describe (catalog : Catalog) : Value :=
  .record
    [("schema_name", catalog.schemaName),
     ("total_tables", .int catalog.tables.length),
     ("tables", .list (catalog.tables.map (·.describe)))]

/-- Equality of columns, their names compared as values. -/
def Column.same (left right : Column) : Bool :=
  left.name.same right.name && left.type == right.type &&
    left.nullable == right.nullable && left.primaryKey == right.primaryKey

/-- Two lists agree position by position. -/
def sameEach {α : Type} (same : α → α → Bool) : List α → List α → Bool
  | [], [] => true
  | left :: lefts, right :: rights => same left right && sameEach same lefts rights
  | _, _ => false

/-- Equality of tables, their names compared as values. -/
def Table.same (left right : Table) : Bool :=
  left.name.same right.name && sameEach Column.same left.columns right.columns

/-- Equality of catalogs, their names compared as values. -/
def Catalog.same (left right : Catalog) : Bool :=
  sameEach Table.same left.tables right.tables && left.schemaName.same right.schemaName

end Inquiry
