import Inquiry.Catalog.Basic

/-!
# Catalogs under a contract

A catalog satisfies a contract when it has both tables and every column that
statements name.
-/

namespace Inquiry.Catalog

/-- The columns of a table that are missing, under the name of the table. -/
def missingColumns (table : Table) (name : Text) :
    List Text → Except Fault (List Text)
  | [] => .ok []
  | column :: rest => do
      let found ← table.column column
      let others ← missingColumns table name rest
      return if found.isSome then others else (name ++ "." ++ column) :: others

/-- What the requirements ask for and the catalog lacks: whole tables, or
single columns of tables that are there. -/
def missingOf (catalog : Catalog) : List (Text × List Text) → Except Fault (List Text)
  | [] => .ok []
  | (name, columns) :: rest => do
      let missing ←
        match ← catalog.table name with
        | none => pure [name]
        | some table => missingColumns table name columns
      return missing ++ (← missingOf catalog rest)

/-- What the contract asks for and the catalog lacks. -/
def missing (catalog : Catalog) (contract : SchemaContract) :
    Except Fault (List Text) :=
  catalog.missingOf contract.requiredColumns

/-- One missing entry as a sentence. -/
def complaint (entry : Text) : Text :=
  match Text.cut? '.' entry with
  | some (table, column) =>
      "Column '" ++ column ++ "' is missing from table '" ++ table ++ "'."
  | none => "Required table '" ++ entry ++ "' is not in the schema catalog."

/-- The complaints about a catalog; none if it satisfies the contract. -/
def complaints (catalog : Catalog) (contract : SchemaContract) :
    Except Fault (List Text) :=
  if catalog.tables.isEmpty then
    return ["Schema '" ++ (← catalog.schemaName.write) ++ "' describes no tables."]
  else return (← catalog.missing contract).map complaint

end Inquiry.Catalog
