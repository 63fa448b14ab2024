import Inquiry.Proofs.Catalog.Shape

/-!
# Catalogs described and read again

What is described of a catalog is read again as the catalog, everything in its order, as long as
the schema, the tables and the columns all have names.  A name that is empty counts as none: that of
the schema falls back on a default, and any other one ends the reading.

Each reader undoes the description on its own level, from the columns up.
-/

namespace Inquiry

/-- What is written element by element is read back if all elements are good; any other one ends
the reading with the same fault. -/
theorem Outcome.mapM_map_eq_ite {ε α β : Type} {write : β → α} {read : α → Except ε β} {fault : ε}
    {good : β → Prop} [DecidablePred good] {values : List β}
    (one : ∀ value, read (write value) = if good value then .ok value else .error fault) :
    (values.map write).mapM read =
      if ∀ value ∈ values, good value then .ok values else .error fault := by
  induction values with
  | nil => rfl
  | cons value rest ih =>
      rw [List.map_cons, List.mapM_cons, one, ih]
      by_cases here : good value
      · by_cases later : ∀ other ∈ rest, good other
        · rw [if_pos here, if_pos later, if_pos (List.forall_mem_cons.mpr ⟨here, later⟩)]
          rfl
        · rw [if_pos here, if_neg later, if_neg fun all => later (List.forall_mem_cons.mp all).2]
          rfl
      · rw [if_neg here, if_neg fun all => here (List.forall_mem_cons.mp all).1]
        rfl

/-- The table and its columns have names. -/
def Table.IsTitled (table : Table) : Prop :=
  table.name.isPresent = true ∧ ∀ column ∈ table.columns, column.name.isPresent = true

instance : DecidablePred Table.IsTitled :=
  fun _ => inferInstanceAs (Decidable (_ ∧ _))

/-- All tables and columns have names. -/
def Catalog.IsTitled (catalog : Catalog) : Prop :=
  ∀ table ∈ catalog.tables, table.IsTitled

instance : DecidablePred Catalog.IsTitled :=
  fun catalog => inferInstanceAs (Decidable (∀ table ∈ catalog.tables, table.IsTitled))

/-- Reads again what is described of a catalog. -/
def Catalog.reread (catalog : Catalog) : Except Fault Catalog := do
  read (← catalog.describe.entries)

/-! ## Level by level -/

/-- A name stands under its long key alone. -/
theorem givenName_described {long : Text} (name : Value) {entries : List (Value × Value)}
    (found : Value.lookup? long entries = some name)
    (unnamed : Value.lookup? "name" entries = none) :
    givenName long entries =
      if name.isPresent then .ok name else .error (.missingKey "name") := by
  rw [givenName, found, unnamed]

theorem Column.read_describe (column : Column) :
    Column.read column.describe =
      if column.name.isPresent then .ok column else .error (.missingKey "name") := by
  rw [describe, Value.record, read, Value.entries, Outcome.ok_bind,
    givenName_described column.name rfl rfl]
  by_cases present : column.name.isPresent = true
  · rw [if_pos present, if_pos present]
    rfl
  · rw [if_neg present, if_neg present]
    rfl

theorem listed_described {key : Text} (items : List Value) {entries : List (Value × Value)}
    (found : Value.lookup? key entries = some (.list items)) : listed key entries = .ok items := by
  rw [listed, found]
  cases items <;> rfl

theorem Table.read_describe (table : Table) :
    Table.read table.describe =
      if table.IsTitled then .ok table else .error (.missingKey "name") := by
  rw [describe, Value.record, read, Value.entries, Outcome.ok_bind,
    givenName_described table.name rfl rfl,
    listed_described (table.columns.map (·.describe)) rfl]
  by_cases present : table.name.isPresent = true
  · rw [if_pos present, Outcome.ok_bind, Outcome.ok_bind,
      Outcome.mapM_map_eq_ite Column.read_describe]
    by_cases columns : ∀ column ∈ table.columns, column.name.isPresent = true
    · rw [if_pos columns, if_pos ⟨present, columns⟩]
      rfl
    · rw [if_neg columns, if_neg fun titled => columns titled.2]
      rfl
  · rw [if_neg present, if_neg fun titled => present titled.1]
    rfl

/-- What is described of a catalog is read as the catalog if all tables and columns have names. -/
theorem Catalog.reread_eq (catalog : Catalog) :
    catalog.reread =
      if catalog.IsTitled then
        .ok { catalog with
          schemaName := Vocabulary.presentOr (.text "public") (some catalog.schemaName) }
      else .error (.missingKey "name") := by
  rw [reread, describe, Value.record, Value.entries, Outcome.ok_bind, read,
    listed_described (catalog.tables.map (·.describe)) rfl, Outcome.ok_bind,
    Outcome.mapM_map_eq_ite Table.read_describe]
  by_cases titled : ∀ table ∈ catalog.tables, table.IsTitled
  · rw [if_pos titled, if_pos (show catalog.IsTitled from titled)]
    rfl
  · rw [if_neg titled, if_neg (show ¬catalog.IsTitled from titled)]
    rfl

/-! ## Catalogs whose names are texts -/

theorem Value.isPresent_iff_of_text {name : Value} (named : name.text?.isSome = true) :
    name.isPresent = true ↔ name ≠ .text [] := by
  cases name with
  | text content => cases content <;> simp [isPresent]
  | _ => cases named

namespace Catalog

/-- Some table or some column goes by the empty text. -/
def HasEmptyName (catalog : Catalog) : Prop :=
  ∃ table ∈ catalog.tables, table.name = .text [] ∨
    ∃ column ∈ table.columns, column.name = .text []

theorem Named.isTitled_iff {catalog : Catalog} (named : catalog.Named) :
    catalog.IsTitled ↔ ¬catalog.HasEmptyName := by
  have table : ∀ table ∈ catalog.tables, (table.IsTitled ↔
      ¬(table.name = .text [] ∨ ∃ column ∈ table.columns, column.name = .text [])) := by
    intro table listed
    obtain ⟨tableNamed, columnsNamed⟩ := named table listed
    have columns : (∀ column ∈ table.columns, column.name.isPresent = true) ↔
        ¬∃ column ∈ table.columns, column.name = .text [] := by
      rw [not_exists]
      refine forall_congr' fun column => ?_
      rw [not_and]
      exact forall_congr' fun found => Value.isPresent_iff_of_text (columnsNamed column found)
    rw [Table.IsTitled, columns, Value.isPresent_iff_of_text tableNamed, not_or]
  rw [IsTitled, HasEmptyName, not_exists]
  refine forall_congr' fun found => ?_
  rw [not_and]
  exact forall_congr' fun listed => table found listed

/-- A catalog is read again as it is exactly if nothing in it goes by the empty text.  A table or a
column that does ends the reading, and a schema that does becomes the default one. -/
theorem reread_eq_ok_iff (catalog : Catalog) (named : catalog.Named) {schema : Text}
    (titled : catalog.schemaName = .text schema) :
    (catalog.reread = .ok catalog ↔ schema ≠ [] ∧ ¬catalog.HasEmptyName) ∧
      (catalog.HasEmptyName → catalog.reread = .error (.missingKey "name")) ∧
      (schema = [] → ¬catalog.HasEmptyName →
        catalog.reread = .ok { catalog with schemaName := .text "public" }) := by
  by_cases empty : catalog.HasEmptyName
  · have ended : catalog.reread = .error (.missingKey "name") := by
      rw [reread_eq, if_neg fun full => named.isTitled_iff.mp full empty]
    refine ⟨iff_of_false ?_ fun filled => filled.2 empty, fun _ => ended,
      fun _ filled => absurd empty filled⟩
    rw [ended]
    nofun
  · have kept : catalog.reread = .ok { catalog with
        schemaName := Vocabulary.presentOr (.text "public") (some (.text schema)) } := by
      rw [reread_eq, if_pos (named.isTitled_iff.mpr empty), titled]
    cases schema with
    | nil =>
        refine ⟨iff_of_false ?_ fun filled => filled.1 rfl, fun found => absurd found empty,
          fun _ _ => kept⟩
        intro same
        rw [kept, Except.ok.injEq] at same
        have renamed : Value.text "public" = .text [] :=
          (congrArg Catalog.schemaName same).trans titled
        simp at renamed
    | cons c rest =>
        refine ⟨iff_of_true ?_ ⟨List.cons_ne_nil _ _, empty⟩, fun found => absurd found empty,
          fun unnamed => absurd unnamed (List.cons_ne_nil _ _)⟩
        have same : { catalog with schemaName := .text (c :: rest) } = catalog := by
          rw [← titled]
        exact kept.trans (congrArg _ same)

/-- A catalog of two tables, under given names for the schema and for a column. -/
def shelves (schema column : Text) : Catalog where
  tables :=
    [{ name := .text "books"
       columns :=
        [{ name := .text "isbn", type := "varchar(13)", nullable := false, primaryKey := true },
         { name := .text column, type := "numeric" }] },
     { name := .text "Loans" }]
  schemaName := .text schema

/-- Shelves are read again as they are, fall back on the default schema, or are not read. -/
theorem reread_shelves :
    (shelves "library" "price").reread = .ok (shelves "library" "price") ∧
      (shelves "library" "").reread = .error (.missingKey "name") ∧
      (shelves "" "price").reread = .ok (shelves "public" "price") := by
  have named : ∀ schema column, (shelves schema column).Named := by
    intro schema column
    simp [Named, shelves, Value.text?]
  have filled : ∀ schema, ¬(shelves schema "price").HasEmptyName := by
    intro schema
    simp [HasEmptyName, shelves]
  refine ⟨?_, ?_, ?_⟩
  · exact (reread_eq_ok_iff _ (named _ _) rfl).1.mpr ⟨by decide, filled _⟩
  · exact (reread_eq_ok_iff _ (named _ _) rfl).2.1 (by simp [HasEmptyName, shelves])
  · exact (reread_eq_ok_iff _ (named _ _) rfl).2.2 rfl (filled _)

end Catalog

end Inquiry
