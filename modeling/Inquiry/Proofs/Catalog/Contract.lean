import Inquiry.Catalog.Contract
import Inquiry.Proofs.Outcome

/-!
# Catalogs that lack nothing

A catalog lacks nothing of a list of requirements exactly when every required table is
found, and in it every required column.

The columns of the fact table are required only if the dimension table has another
name; under one name they give way to the columns of the dimension table.
-/

namespace Inquiry

/-- A test that gives an answer for every element is searched with as usual. -/
theorem firstAccepted_eq_find? {α : Type} {accepts : α → Except Fault Bool}
    {elements : List α} (test : α → Bool)
    (total : ∀ element ∈ elements, accepts element = .ok (test element)) :
    firstAccepted accepts elements = .ok (elements.find? test) := by
  induction elements with
  | nil => rfl
  | cons first rest ih =>
      have later := ih fun element member => total element (by simp [member])
      rw [firstAccepted, total first (by simp), List.find?_cons]
      cases test first with
      | true => rfl
      | false => exact later

namespace Catalog

/-- A look-up of the table finds one, and a look-up of the column finds one in it. -/
def HasColumn (catalog : Catalog) (name column : Text) : Prop :=
  ∃ table found, catalog.table name = .ok (some table) ∧ table.column column = .ok (some found)

/-- Look-ups ignore case. -/
theorem hasColumn_congr {catalog : Catalog} {name left right : Text}
    (same : Text.lower left = Text.lower right) :
    catalog.HasColumn name left ↔ catalog.HasColumn name right := by
  have alike : ∀ table : Table, table.column left = table.column right := by
    intro table
    simp only [Table.column, same]
  simp only [HasColumn, alike]

theorem missingColumns_eq_nil {table : Table} {name : Text} {columns : List Text} :
    missingColumns table name columns = .ok [] ↔
      ∀ column ∈ columns, ∃ found, table.column column = .ok (some found) := by
  induction columns with
  | nil => simp [missingColumns]
  | cons column rest ih =>
      rw [List.forall_mem_cons, ← ih, missingColumns, Outcome.bind_eq_ok]
      constructor
      · rintro ⟨found, search, success⟩
        obtain ⟨others, othersFound, success⟩ := Outcome.bind_eq_ok.mp success
        have entries := Outcome.pure_eq_ok.mp success
        cases found with
        | none => simp at entries
        | some found =>
            obtain rfl : others = [] := by simpa using entries
            exact ⟨⟨found, search⟩, othersFound⟩
      · rintro ⟨⟨found, search⟩, othersFound⟩
        exact ⟨some found, search, by rw [othersFound]; rfl⟩

/-- What one requirement asks for and the catalog lacks. -/
def missingFrom (catalog : Catalog) (name : Text) (columns : List Text) :
    Except Fault (List Text) :=
  catalog.table name >>= fun found =>
    match found with
    | none => .ok [name]
    | some table => missingColumns table name columns

theorem missingOf_cons {catalog : Catalog} {name : Text} {columns : List Text}
    {rest : List (Text × List Text)} :
    catalog.missingOf ((name, columns) :: rest) =
      catalog.missingFrom name columns >>= fun missing =>
        catalog.missingOf rest >>= fun others => pure (missing ++ others) := by
  rw [missingOf, missingFrom]
  cases catalog.table name with
  | error fault => rfl
  | ok found => cases found <;> rfl

theorem missingFrom_eq_nil {catalog : Catalog} {name : Text} {columns : List Text} :
    catalog.missingFrom name columns = .ok [] ↔
      ∃ table, catalog.table name = .ok (some table) ∧
        ∀ column ∈ columns, ∃ found, table.column column = .ok (some found) := by
  rw [missingFrom, Outcome.bind_eq_ok]
  constructor
  · rintro ⟨found, search, success⟩
    cases found with
    | none => simp at success
    | some table => exact ⟨table, search, missingColumns_eq_nil.mp success⟩
  · rintro ⟨table, search, columnsFound⟩
    exact ⟨some table, search, missingColumns_eq_nil.mpr columnsFound⟩

theorem missingOf_eq_nil {catalog : Catalog} {requirements : List (Text × List Text)} :
    catalog.missingOf requirements = .ok [] ↔
      ∀ requirement ∈ requirements,
        catalog.missingFrom requirement.1 requirement.2 = .ok [] := by
  induction requirements with
  | nil => simp [missingOf]
  | cons requirement rest ih =>
      rw [List.forall_mem_cons, ← ih, missingOf_cons, Outcome.bind_eq_ok]
      constructor
      · rintro ⟨missing, missingFound, success⟩
        obtain ⟨others, othersFound, success⟩ := Outcome.bind_eq_ok.mp success
        obtain ⟨rfl, rfl⟩ := List.append_eq_nil_iff.mp (Outcome.pure_eq_ok.mp success)
        exact ⟨missingFound, othersFound⟩
      · rintro ⟨missingFound, othersFound⟩
        exact ⟨[], missingFound, by rw [othersFound]; rfl⟩

/-- A catalog satisfies a contract when it has the columns of the dimension table, and
those of the fact table unless both tables go by one name. -/
theorem missing_eq_nil {catalog : Catalog} {contract : SchemaContract} :
    catalog.missing contract = .ok [] ↔
      (contract.fact.table ≠ contract.dimension.table →
        ∀ column ∈ contract.fact.columns, catalog.HasColumn contract.fact.table column) ∧
      ∀ column ∈ contract.dimension.columns,
        catalog.HasColumn contract.dimension.table column := by
  have whole : ∀ {name : Text} {columns : List Text}, columns ≠ [] →
      (catalog.missingFrom name columns = .ok [] ↔
        ∀ column ∈ columns, catalog.HasColumn name column) := by
    intro name columns nonempty
    rw [missingFrom_eq_nil]
    constructor
    · rintro ⟨table, search, columnsFound⟩ column member
      obtain ⟨found, columnFound⟩ := columnsFound column member
      exact ⟨table, found, search, columnFound⟩
    · intro has
      obtain ⟨first, member⟩ := List.exists_mem_of_ne_nil columns nonempty
      obtain ⟨table, -, search, -⟩ := has first member
      refine ⟨table, search, fun column member => ?_⟩
      obtain ⟨other, found, again, columnFound⟩ := has column member
      obtain rfl : table = other := by simpa [search] using again
      exact ⟨found, columnFound⟩
  have fact := @whole contract.fact.table contract.fact.columns (by simp [FactTable.columns])
  have dimension := @whole contract.dimension.table contract.dimension.columns
    (by simp [DimensionTable.columns])
  rw [missing, missingOf_eq_nil, SchemaContract.requiredColumns, ← fact, ← dimension]
  split
  next same => simp [same]
  next distinct => simp [distinct]

/-! ## Catalogs whose names are texts -/

/-- Every table and every column goes by a text. -/
def Named (catalog : Catalog) : Prop :=
  ∀ table ∈ catalog.tables, table.name.text?.isSome = true ∧
    ∀ column ∈ table.columns, column.name.text?.isSome = true

/-! ## Catalogs of one table -/

/-- A catalog of a single table with columns of the given names. -/
def single (name : Text) (columns : List Text) : Catalog where
  tables :=
    [{ name := .text name, columns := columns.map fun given => { name := .text given } }]

/-- The single table has the columns that were given for it, in small or capital letters. -/
theorem hasColumn_single {name column : Text} {columns : List Text} :
    (single name columns).HasColumn name column ↔
      ∃ given ∈ columns, Text.lower given = Text.lower column := by
  have tableFound : (single name columns).table name = .ok (some
      { name := .text name, columns := columns.map fun given => { name := .text given } }) := by
    simp [Catalog.table, single, firstAccepted, smallName, sameTable, bind, Except.bind, pure,
      Except.pure]
  have columnSearch : ({ name := .text name
                         columns := columns.map fun given => { name := .text given } } :
        Table).column column =
      .ok ((columns.map fun given => { name := .text given }).find? fun found =>
        found.name.text?.any fun given => Text.lower given == Text.lower column) := by
    apply firstAccepted_eq_find?
    intro found member
    obtain ⟨given, -, rfl⟩ := List.mem_map.mp member
    rfl
  simp only [HasColumn, tableFound, Except.ok.injEq, Option.some.injEq, exists_and_left,
    exists_eq_left', columnSearch, ← Option.isSome_iff_exists, List.find?_isSome]
  simp [Value.text?]

end Catalog

end Inquiry
