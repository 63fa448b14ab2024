import Inquiry.Proofs.Catalog.Shape
import Inquiry.Proofs.Statement.Names
import Inquiry.Proofs.Text.Component
import Inquiry.Proofs.Text.Spelling
import Inquiry.Vocabulary.Bundled

/-!
# Tables by their names

A look-up finds the first table whose name has the same last component as the given one.  A table
that goes by the full name is found only if no other table with that last component stands before
it, so the order of the tables decides which of them a contract is compared with.
-/

namespace Inquiry

/-! ## Names of tables -/

namespace Table

/-- The full name of the table is the given one, whatever the case. -/
def goesBy (table : Table) (name : Text) : Bool :=
  table.name.isCalled (· == Text.lower name)

/-- The name of the table has the same last component as the given one. -/
def shares (table : Table) (name : Text) : Bool :=
  table.name.isCalled fun small => Text.afterLast '.' small == Text.afterLast '.' (Text.lower name)

variable {table : Table} {name : Text}

theorem goesBy_iff : table.goesBy name = true ↔
    ∃ full, table.name = .text full ∧ Text.lower full = Text.lower name := by
  rw [goesBy]
  cases table.name <;> simp [Value.isCalled, Value.text?]

theorem shares_iff : table.shares name = true ↔ ∃ full, table.name = .text full ∧
    Text.afterLast '.' (Text.lower full) = Text.afterLast '.' (Text.lower name) := by
  rw [shares]
  cases table.name <;> simp [Value.isCalled, Value.text?]

theorem shares_of_goesBy (exact : table.goesBy name = true) : table.shares name = true := by
  obtain ⟨full, named, same⟩ := goesBy_iff.mp exact
  exact shares_iff.mpr ⟨full, named, by rw [same]⟩

/-- The name of the table is the given one with a schema and a point before it. -/
def Qualifies (table : Table) (name : Text) : Prop :=
  ∃ full schema, table.name = .text full ∧ Text.lower full = schema ++ '.' :: Text.lower name

/-- A table with the same last component as a name without points goes by that name, with or
without a schema before it. -/
theorem goesBy_or_qualifies (pointless : '.' ∉ Text.lower name)
    (shared : table.shares name = true) : table.goesBy name = true ∨ table.Qualifies name := by
  obtain ⟨full, named, same⟩ := shares_iff.mp shared
  rw [Text.afterLast_of_not_mem pointless] at same
  by_cases dotted : '.' ∈ Text.lower full
  · obtain ⟨schema, whole⟩ := Text.exists_append_afterLast dotted
    exact .inr ⟨full, schema, named, by rw [whole, same]⟩
  · rw [Text.afterLast_of_not_mem dotted] at same
    exact .inl (goesBy_iff.mpr ⟨full, named, same⟩)

end Table

/-- The name of the column is the given one, whatever the case. -/
def Column.goesBy (column : Column) (name : Text) : Bool :=
  column.name.isCalled (· == Text.lower name)

/-! ## Look-ups -/

/-- A search that may fail stops at the first element that is accepted. -/
theorem firstAccepted_eq_some_iff {α : Type} {accepts : α → Except Fault Bool}
    {elements : List α} {found : α} : firstAccepted accepts elements = .ok (some found) ↔
      ∃ before after, elements = before ++ found :: after ∧ accepts found = .ok true ∧
        ∀ element ∈ before, accepts element = .ok false := by
  induction elements with
  | nil => simp [firstAccepted]
  | cons element rest ih =>
      rw [firstAccepted, Outcome.bind_eq_ok]
      constructor
      · rintro ⟨accepted, decided, success⟩
        cases accepted with
        | true =>
            cases success
            exact ⟨[], rest, rfl, decided, by simp⟩
        | false =>
            obtain ⟨before, after, rfl, here, passed⟩ := ih.mp success
            exact ⟨element :: before, after, rfl, here, List.forall_mem_cons.mpr ⟨decided, passed⟩⟩
      · rintro ⟨before, after, whole, here, passed⟩
        cases before with
        | nil =>
            obtain ⟨rfl, rfl⟩ := List.cons.inj whole
            exact ⟨true, here, rfl⟩
        | cons first others =>
            obtain ⟨rfl, rfl⟩ := List.cons.inj whole
            rw [List.forall_mem_cons] at passed
            exact ⟨false, passed.1, ih.mpr ⟨others, after, rfl, here, passed.2⟩⟩

namespace Catalog

variable {catalog : Catalog} {name : Text}

/-- The comparison of full names is part of the comparison of last components. -/
theorem sameTable_eq (left right : Text) :
    sameTable left right = (Text.afterLast '.' left == Text.afterLast '.' right) := by
  rw [sameTable]
  by_cases same : left = right
  · simp [same]
  · simp [same]

/-- The table may be passed over on the way to a name. -/
def Passes (table : Table) (name : Text) : Prop :=
  table.name.text?.isSome = true ∧ table.shares name = false

instance (table : Table) (name : Text) : Decidable (Passes table name) :=
  inferInstanceAs (Decidable (_ ∧ _))

theorem accepts_eq_ok {table : Table} {accepted : Bool} :
    (return sameTable (← smallName table.name) (Text.lower name) : Except Fault Bool) =
        .ok accepted ↔
      table.name.text?.isSome = true ∧ table.shares name = accepted := by
  rw [Table.shares]
  cases table.name <;>
    simp [smallName, sameTable_eq, Value.isCalled, Value.text?, bind, Except.bind, pure,
      Except.pure]

/-- A look-up finds the first table with the last component of the name. -/
theorem table_eq_some_iff {table : Table} : catalog.table name = .ok (some table) ↔
    ∃ before after, catalog.tables = before ++ table :: after ∧ table.shares name = true ∧
      ∀ other ∈ before, Passes other name := by
  have text : table.shares name = true → table.name.text?.isSome = true := by
    intro shared
    obtain ⟨full, named, -⟩ := Table.shares_iff.mp shared
    rw [named]
    rfl
  simp only [Catalog.table, firstAccepted_eq_some_iff, accepts_eq_ok, Passes]
  exact exists_congr fun before => exists_congr fun after => and_congr_right fun _ =>
    and_congr_left fun _ => ⟨And.right, fun shared => ⟨text shared, shared⟩⟩

instance (catalog : Catalog) : Decidable catalog.Named :=
  inferInstanceAs (Decidable (∀ table ∈ catalog.tables, _ ∧ ∀ column ∈ table.columns, _))

/-- Where names are texts, a look-up finds the first table with the last component of the name. -/
theorem Named.table_eq (named : catalog.Named) (name : Text) :
    catalog.table name = .ok (catalog.tables.find? (·.shares name)) :=
  firstAccepted_eq_find? _ fun table member => accepts_eq_ok.mpr ⟨(named table member).1, rfl⟩

theorem Named.column_eq (named : catalog.Named) {table : Table} (member : table ∈ catalog.tables)
    (name : Text) : table.column name = .ok (table.columns.find? (·.goesBy name)) := by
  apply firstAccepted_eq_find?
  intro column listed
  obtain ⟨content, text⟩ := Option.isSome_iff_exists.mp ((named table member).2 column listed)
  rw [Column.goesBy]
  cases found : column.name <;>
    simp [found, Value.text?, Value.isCalled, smallName, bind, Except.bind, pure, Except.pure]
      at text ⊢

/-- A look-up finds a table of the full name. -/
def FindsExact (catalog : Catalog) (name : Text) : Prop :=
  ∃ table, catalog.table name = .ok (some table) ∧ table.goesBy name = true

/-- A table of the full name stands before all others with the same last component. -/
def ExactFirst (catalog : Catalog) (name : Text) : Prop :=
  ∃ before table after, catalog.tables = before ++ table :: after ∧ table.goesBy name = true ∧
    ∀ other ∈ before, Passes other name

theorem findsExact_iff : catalog.FindsExact name ↔ catalog.ExactFirst name := by
  simp only [FindsExact, table_eq_some_iff]
  constructor
  · rintro ⟨table, ⟨before, after, whole, -, passed⟩, exact⟩
    exact ⟨before, table, after, whole, exact, passed⟩
  · rintro ⟨before, table, after, whole, exact, passed⟩
    exact ⟨table, ⟨before, after, whole, Table.shares_of_goesBy exact, passed⟩, exact⟩

/-- A table that is passed over or goes by the name does not hide a table of the name. -/
theorem findsExact_of_forall (present : ∃ table ∈ catalog.tables, table.goesBy name = true)
    (unhidden : ∀ table ∈ catalog.tables, table.goesBy name = true ∨ Passes table name) :
    catalog.FindsExact name := by
  rw [findsExact_iff, ExactFirst]
  generalize catalog.tables = tables at present unhidden ⊢
  induction tables with
  | nil => simp at present
  | cons table rest ih =>
      rw [List.forall_mem_cons] at unhidden
      by_cases exact : table.goesBy name = true
      · exact ⟨[], table, rest, rfl, exact, by simp⟩
      · have later : ∃ other ∈ rest, other.goesBy name = true := by
          obtain ⟨other, member, goes⟩ := present
          rcases List.mem_cons.mp member with rfl | behind
          · exact absurd goes exact
          · exact ⟨other, behind, goes⟩
        obtain ⟨before, found, after, rfl, goes, passed⟩ := ih later unhidden.2
        exact ⟨table :: before, found, after, rfl, goes,
          List.forall_mem_cons.mpr ⟨unhidden.1.resolve_left exact, passed⟩⟩

/-- The order of the tables makes no difference exactly if every table with the last component of
the name goes by the whole name. -/
theorem forall_findsExact_iff (present : ∃ table ∈ catalog.tables, table.goesBy name = true) :
    (∀ reordered : Catalog, reordered.tables.Perm catalog.tables → reordered.FindsExact name) ↔
      ∀ table ∈ catalog.tables, table.goesBy name = true ∨ Passes table name := by
  constructor
  · intro always table member
    obtain ⟨front, back, whole⟩ := List.append_of_mem member
    have moved : (table :: (front ++ back)).Perm catalog.tables := by
      rw [whole]
      exact List.perm_middle.symm
    obtain ⟨before, found, after, parted, exact, passed⟩ :=
      findsExact_iff.mp (always { catalog with tables := table :: (front ++ back) } moved)
    cases before with
    | nil =>
        obtain ⟨rfl, -⟩ := List.cons.inj parted
        exact .inl exact
    | cons first others =>
        obtain ⟨rfl, -⟩ := List.cons.inj parted
        exact .inr (passed _ List.mem_cons_self)
  · intro unhidden reordered same
    apply findsExact_of_forall
    · obtain ⟨table, member, exact⟩ := present
      exact ⟨table, same.mem_iff.mpr member, exact⟩
    · exact fun table member => unhidden table (same.mem_iff.mp member)

/-! ## Contracts -/

/-- What is missing is what is missing of each requirement, in order. -/
theorem missing_eq_mapM (catalog : Catalog) (contract : SchemaContract) :
    catalog.missing contract = (contract.requiredColumns.mapM fun requirement =>
      catalog.missingFrom requirement.1 requirement.2).map List.flatten := by
  rw [missing]
  induction contract.requiredColumns with
  | nil => rfl
  | cons requirement rest ih =>
      rw [missingOf_cons, ih, List.mapM_cons]
      cases catalog.missingFrom requirement.1 requirement.2 with
      | error fault => rfl
      | ok missing =>
          rw [Outcome.ok_bind, Outcome.ok_bind]
          cases rest.mapM fun requirement => catalog.missingFrom requirement.1 requirement.2 <;> rfl

theorem missingFrom_of_table {columns : List Text} {table : Table}
    (found : catalog.table name = .ok (some table)) :
    catalog.missingFrom name columns = missingColumns table name columns := by
  rw [missingFrom, found, Outcome.ok_bind]

end Catalog

/-- The names of a contract have no points. -/
theorem Vocabulary.WellFormed.pointless_of_required {vocabulary : Vocabulary}
    (wellFormed : vocabulary.WellFormed) {requirement : Text × List Text}
    (member : requirement ∈ vocabulary.schema.requiredColumns) :
    '.' ∉ Text.lower requirement.1 := by
  have identifier : isIdentifier requirement.1 = true :=
    wellFormed.isIdentifier_of_required requirement member _ List.mem_cons_self
  have ascii := ascii_of_isIdentifier identifier
  rw [Text.lower_eq_map_toLower fun c listed => .inl (ascii c listed), List.mem_map]
  rintro ⟨c, listed, small⟩
  have plain : c = '.' := by
    by_cases upper : c.isUpper = true
    · have letter := Char.isUpper_toLower_eq_false c
      have alpha := Text.cased_of_isUpper upper
      rw [small] at alpha
      exact absurd alpha.2.1 (by decide +kernel)
    · rwa [Char.toLower_eq_of_not_isUpper upper] at small
  rw [plain] at listed
  exact absurd (parts_of_isIdentifier identifier _ listed) (by decide)

namespace Catalog

/-- A look-up finds a table of the full name exactly if no other table with the same last component
stands before it, and so does every look-up in another order only if there is no other such table.
A contract is compared with the columns of the table that is found, which otherwise goes by the
name with a schema before it. -/
theorem exact_table_found_iff {raw : Value} {vocabulary : Vocabulary}
    (accepted : Vocabulary.read raw = .ok vocabulary) (catalog : Catalog) :
    let contract := vocabulary.schema
    (∀ name, catalog.FindsExact name ↔ catalog.ExactFirst name) ∧
      (∀ name, (∃ table ∈ catalog.tables, table.goesBy name = true) →
        ((∀ reordered : Catalog, reordered.tables.Perm catalog.tables →
            reordered.FindsExact name) ↔
          ∀ table ∈ catalog.tables, table.goesBy name = true ∨ Passes table name)) ∧
      catalog.missing contract = (contract.requiredColumns.mapM fun requirement =>
        catalog.missingFrom requirement.1 requirement.2).map List.flatten ∧
      ∀ requirement ∈ contract.requiredColumns, ∀ table,
        catalog.table requirement.1 = .ok (some table) →
          catalog.missingFrom requirement.1 requirement.2 =
              missingColumns table requirement.1 requirement.2 ∧
            (catalog.ExactFirst requirement.1 → table.goesBy requirement.1 = true) ∧
            (¬catalog.ExactFirst requirement.1 → table.Qualifies requirement.1) := by
  intro contract
  have wellFormed := Vocabulary.wellFormed_of_read accepted
  refine ⟨fun _ => findsExact_iff, fun _ => forall_findsExact_iff, missing_eq_mapM catalog contract,
    fun requirement member table found => ⟨missingFrom_of_table found, ?_, ?_⟩⟩
  · intro first
    obtain ⟨other, again, exact⟩ := findsExact_iff.mpr first
    obtain rfl : other = table := Option.some.inj (Except.ok.inj (again.symm.trans found))
    exact exact
  · intro hidden
    obtain ⟨-, -, -, shared, -⟩ := table_eq_some_iff.mp found
    have pointless := wellFormed.pointless_of_required member
    refine (Table.goesBy_or_qualifies pointless shared).resolve_left fun exact => hidden ?_
    exact findsExact_iff.mp ⟨table, found, exact⟩

/-- A catalog with both tables of a contract and, before them, an archived fact table. -/
def archived (contract : SchemaContract) (archivedColumns columns : List Text) : Catalog where
  tables :=
    (single ("archive." ++ contract.fact.table) archivedColumns).tables ++
      (single contract.fact.table columns).tables ++
        (single contract.dimension.table contract.dimension.columns).tables

theorem exact_table_found_sample :
    let contract := Vocabulary.sampleVocabulary.schema
    let catalog := archived contract ["id"] contract.fact.columns
    ∃ table, catalog.table "readings" = .ok (some table) ∧ table.Qualifies "readings" ∧
      catalog.missingFrom "readings" ["amount"] = .ok ["readings.amount"] := by
  intro contract catalog
  obtain ⟨table, found⟩ : ∃ table, catalog.table "readings" = .ok (some table) :=
    ⟨_, by with_unfolding_all rfl⟩
  obtain ⟨preferred, -, -, judged⟩ := exact_table_found_iff Vocabulary.read_sampleSource catalog
  have other : table.goesBy "readings" = false := by
    have archivedTable : catalog.table "readings" =
        .ok (some { name := .text "archive.readings", columns := [{ name := .text "id" }] }) := by
      with_unfolding_all rfl
    obtain rfl := Option.some.inj (Except.ok.inj (archivedTable.symm.trans found))
    decide +kernel
  have hidden : ¬catalog.ExactFirst "readings" := by
    rw [← preferred]
    rintro ⟨again, foundAgain, exact⟩
    obtain rfl := Option.some.inj (Except.ok.inj (foundAgain.symm.trans found))
    rw [other] at exact
    cases exact
  obtain ⟨-, -, qualifies⟩ := judged ("readings", contract.fact.columns)
    (List.mem_cons_self) table found
  exact ⟨table, found, qualifies hidden, by with_unfolding_all rfl⟩

/-- An archived table hides the table of the contract.  What the latter has is reported as missing,
and what it lacks is not. -/
theorem archived_table_hides :
    let contract := Vocabulary.bundledSchema
    (∃ table ∈ (archived contract ["id"] contract.fact.columns).tables,
      table.goesBy "metrics" = true) ∧
      ¬(archived contract ["id"] contract.fact.columns).FindsExact "metrics" ∧
      (archived contract ["id"] contract.fact.columns).missing contract =
        .ok ["metrics.department_id", "metrics.metric_name", "metrics.metric_value",
          "metrics.metric_date", "metrics.monthly_change_percent"] ∧
      (archived contract contract.fact.columns []).missing contract = .ok [] := by
  intro contract
  refine ⟨by decide +kernel, ?_, by with_unfolding_all rfl, by with_unfolding_all rfl⟩
  have archivedTable : (archived contract ["id"] contract.fact.columns).table "metrics" =
      .ok (some { name := .text "archive.metrics", columns := [{ name := .text "id" }] }) := by
    with_unfolding_all rfl
  rintro ⟨table, found, exact⟩
  obtain rfl := Option.some.inj (Except.ok.inj (archivedTable.symm.trans found))
  revert exact
  decide +kernel

end Catalog

end Inquiry
