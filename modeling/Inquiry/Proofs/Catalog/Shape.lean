import Inquiry.Catalog.Description
import Inquiry.Proofs.Catalog.Contract
import Inquiry.Proofs.Value.Shape

/-!
# Descriptions of catalogs

A description is read if it has a mapping wherever a table or a column is expected, with a name
in each, something to iterate over wherever several are, and for every column a type that can be
written.

A catalog that was read is compared with a contract if the names that look-ups reach are texts.
A look-up reaches the names up to the first one that it is after.
-/

namespace Inquiry

open Outcome (Hinges)
open Value (IsMapping ListedUnder)

/-- The faults of a description that is not of the right shape. -/
inductive Misshapen : Fault → Prop where
  | nameless : Misshapen (.missingKey "name")
  | wrongType : Misshapen .wrongType
  | unwritableInteger : Misshapen .unwritableInteger

/-! ## Reading -/

/-- There is a name under the long key, or at least something under the short one. -/
def NamedUnder (long : Text) (entries : List (Value × Value)) : Prop :=
  (∃ name, Value.lookup? long entries = some name ∧ name.isPresent = true) ∨
    (Value.lookup? "name" entries).isSome = true

/-- What is given as the type of a column can be written. -/
def TypedWritably (entries : List (Value × Value)) : Prop :=
  (eitherKey "data_type" "type" (.text []) entries).IsWritable

/-- The value describes a column. -/
def DescribesColumn (raw : Value) : Prop :=
  raw.IsMapping fun entries => NamedUnder "column_name" entries ∧ TypedWritably entries

/-- The value describes a table with its columns. -/
def DescribesTable (raw : Value) : Prop :=
  raw.IsMapping fun entries =>
    NamedUnder "table_name" entries ∧ ListedUnder "columns" DescribesColumn entries

/-- The entries describe a schema with its tables. -/
def DescribesSchema (entries : List (Value × Value)) : Prop :=
  ListedUnder "tables" DescribesTable entries

variable {expected : Fault → Prop}

theorem hinges_givenName (long : Text) (entries : List (Value × Value)) :
    Hinges Misshapen expected (NamedUnder long entries) (givenName long entries) := by
  rw [NamedUnder, givenName]
  cases Value.lookup? long entries with
  | none =>
      cases Value.lookup? "name" entries with
      | none => exact .error_of_not .nameless (by simp)
      | some short => exact .ok (.inr rfl) short
  | some name =>
      by_cases present : name.isPresent = true
      · simp only [present, if_true]
        exact .ok (.inl ⟨name, rfl, present⟩) name
      · simp only [present]
        cases Value.lookup? "name" entries with
        | none => exact .error_of_not .nameless (by simp [present])
        | some short => exact .ok (.inr rfl) short

theorem hinges_listed {β : Type} {key : Text} {each : Value → Prop}
    {entries : List (Value × Value)} {next : List Value → Except Fault β}
    (later : ∀ items, Hinges Misshapen expected (∀ item ∈ items, each item) (next items)) :
    Hinges Misshapen expected (ListedUnder key each entries) (listed key entries >>= next) :=
  (Value.hinges_elements_bind .wrongType later).congr Value.yields_presentOr

theorem Column.hinges_read (raw : Value) :
    Hinges Misshapen expected (DescribesColumn raw) (Column.read raw) :=
  Value.hinges_entries_bind .wrongType fun entries _ =>
    (hinges_givenName "column_name" entries).bind fun _ _ =>
      (Value.hinges_write .unwritableInteger _).bind_true fun _ _ => .ok trivial _

theorem Table.hinges_read (raw : Value) :
    Hinges Misshapen expected (DescribesTable raw) (Table.read raw) :=
  Value.hinges_entries_bind .wrongType fun entries _ =>
    (hinges_givenName "table_name" entries).bind fun _ _ => hinges_listed fun _ =>
      (Hinges.mapM fun raw _ => Column.hinges_read raw).bind_true fun _ _ => .ok trivial _

theorem Catalog.hinges_read (entries : List (Value × Value)) :
    Hinges Misshapen expected (DescribesSchema entries) (Catalog.read entries) :=
  hinges_listed fun _ =>
    (Hinges.mapM fun raw _ => Table.hinges_read raw).bind_true fun _ _ => .ok trivial _

/-! ## Searching -/

/-- The name is a text that passes a test in small letters. -/
def Value.isCalled (test : Text → Bool) (name : Value) : Bool :=
  name.text?.any fun content => test (Text.lower content)

/-- The names up to the first that passes a test are texts. -/
def TextsUpTo {α : Type} (name : α → Value) (test : Text → Bool) (elements : List α) : Prop :=
  ∀ element ∈ elements.takeWhile fun element => !(name element).isCalled test,
    (name element).text?.isSome = true

/-- The columns up to the one of a name go by texts. -/
def Table.Searchable (table : Table) (column : Text) : Prop :=
  TextsUpTo Column.name (· == Text.lower column) table.columns

/-- The tables up to the one of a name go by texts. -/
def Catalog.Searchable (catalog : Catalog) (name : Text) : Prop :=
  TextsUpTo Table.name (sameTable · (Text.lower name)) catalog.tables

theorem textsUpTo_cons {α : Type} {name : α → Value} {test : Text → Bool} {element : α}
    {rest : List α} : TextsUpTo name test (element :: rest) ↔
      (name element).isCalled test = true ∨
        (name element).text?.isSome = true ∧ TextsUpTo name test rest := by
  rw [TextsUpTo, List.takeWhile_cons]
  by_cases called : (name element).isCalled test = true
  · simp [called]
  · simp [called, TextsUpTo]

theorem hinges_firstAccepted {α : Type} (name : α → Value) (test : Text → Bool)
    (elements : List α) : Hinges Misshapen expected (TextsUpTo name test elements)
      (firstAccepted (fun element => return test (← smallName (name element))) elements) := by
  induction elements with
  | nil => exact .ok (by simp [TextsUpTo]) none
  | cons element rest ih =>
      rw [textsUpTo_cons, firstAccepted]
      cases named : name element with
      | text content =>
          by_cases passes : test (Text.lower content) = true
          · simp only [smallName, passes, bind, Except.bind, pure, Except.pure, if_true]
            exact .ok (.inl passes) _
          · simp only [smallName, passes, bind, Except.bind, pure, Except.pure]
            exact ih.congr (by simp [Value.isCalled, Value.text?, passes])
      | _ => exact .error_of_not .wrongType (by simp [Value.isCalled, Value.text?])

theorem Table.hinges_column (table : Table) (column : Text) :
    Hinges Misshapen expected (table.Searchable column) (table.column column) :=
  hinges_firstAccepted Column.name (· == Text.lower column) table.columns

theorem Catalog.hinges_table (catalog : Catalog) (name : Text) :
    Hinges Misshapen expected (catalog.Searchable name) (catalog.table name) :=
  hinges_firstAccepted Table.name (sameTable · (Text.lower name)) catalog.tables

namespace Catalog

theorem hinges_missingColumns (table : Table) (name : Text) (columns : List Text) :
    Hinges Misshapen expected (∀ column ∈ columns, table.Searchable column)
      (missingColumns table name columns) := by
  induction columns with
  | nil => exact .ok (by simp) []
  | cons column rest ih =>
      rw [List.forall_mem_cons, missingColumns]
      exact (table.hinges_column column).bind fun _ _ => ih.bind_true fun _ _ => .ok trivial _

/-- A requirement is looked up in the catalog: its table, and the columns in the table that is
found. -/
def Answers (catalog : Catalog) (name : Text) (columns : List Text) : Prop :=
  catalog.Searchable name ∧ ∀ table, catalog.table name = .ok (some table) →
    ∀ column ∈ columns, table.Searchable column

theorem hinges_missingFrom (catalog : Catalog) (name : Text) (columns : List Text) :
    Hinges Misshapen expected (catalog.Answers name columns)
      (catalog.missingFrom name columns) := by
  refine (catalog.hinges_table name).bind fun found search => ?_
  cases found with
  | none => exact .ok (by simp [search]) [name]
  | some table => exact (hinges_missingColumns table name columns).congr (by simp [search])

/-- What a contract asks for is looked up in the catalog. -/
def Comparable (catalog : Catalog) (contract : SchemaContract) : Prop :=
  ∀ requirement ∈ contract.requiredColumns, catalog.Answers requirement.1 requirement.2

theorem hinges_missing (catalog : Catalog) (contract : SchemaContract) :
    Hinges Misshapen expected (catalog.Comparable contract) (catalog.missing contract) := by
  rw [Comparable, missing]
  induction contract.requiredColumns with
  | nil => exact .ok (by simp) []
  | cons requirement rest ih =>
      rw [List.forall_mem_cons, missingOf_cons]
      exact (catalog.hinges_missingFrom requirement.1 requirement.2).bind fun _ _ =>
        ih.bind_true fun _ _ => .ok trivial _

/-! ## Catalogs whose names are texts -/

theorem textsUpTo_of_forall {α : Type} {name : α → Value} {elements : List α}
    (all : ∀ element ∈ elements, (name element).text?.isSome = true) (test : Text → Bool) :
    TextsUpTo name test elements :=
  fun element member => all element (List.takeWhile_subset _ member)

theorem mem_of_firstAccepted {α : Type} {accepts : α → Except Fault Bool} {elements : List α}
    {found : α} (success : firstAccepted accepts elements = .ok (some found)) :
    found ∈ elements := by
  induction elements with
  | nil => cases success
  | cons element rest ih =>
      obtain ⟨accepted, -, success⟩ := Outcome.bind_eq_ok.mp success
      cases accepted with
      | true =>
          cases success
          exact List.mem_cons_self
      | false => exact List.mem_cons_of_mem _ (ih success)

/-- A catalog whose names are texts is compared with every contract. -/
theorem Named.comparable {catalog : Catalog} (named : catalog.Named)
    (contract : SchemaContract) : catalog.Comparable contract := by
  intro requirement _
  refine ⟨textsUpTo_of_forall (fun table member => (named table member).1) _, ?_⟩
  intro table found column _
  exact textsUpTo_of_forall (named table (mem_of_firstAccepted found)).2 _

theorem exists_missing {catalog : Catalog} (named : catalog.Named) (contract : SchemaContract) :
    ∃ missing, catalog.missing contract = .ok missing :=
  (catalog.hinges_missing contract).exists_iff.mpr (named.comparable contract)

end Catalog

end Inquiry
