import Inquiry.Proofs.Catalog.Demand
import Inquiry.Proofs.Catalog.Lookup

/-!
# The presentation of a catalog

A catalog may list its tables and columns in any order, write their names in small or capital
letters, put schemas before the names of tables and describe more than a contract asks for.  If no
two of its tables have the same last component, none of this changes what is missing.

The invariant is what look-ups see of the tables: whether a table is the one that is asked for, and
whether it has the column.  Every change keeps what is seen up to the order, and adds at most tables
that are not asked for.
-/

namespace Inquiry

open Catalog (Passes)

/-! ## Changes -/

/-- Two names differ in the case of ASCII letters alone. -/
def Value.SameLetters (name other : Value) : Prop :=
  ∃ content changed, name = .text content ∧ other = .text changed ∧
    Text.SameLetters content changed

namespace SchemaContract

/-- The columns that a contract mentions. -/
def columns (contract : SchemaContract) : List Text :=
  contract.fact.columns ++ contract.dimension.columns

/-- The contract does not mention the column. -/
def IgnoresColumn (contract : SchemaContract) (column : Column) : Prop :=
  column.name.text?.isSome = true ∧
    ∀ mentioned ∈ contract.columns, column.goesBy mentioned = false

/-- The contract does not mention the last component of the table. -/
def IgnoresTable (contract : SchemaContract) (table : Table) : Prop :=
  (∀ column ∈ table.columns, column.name.text?.isSome = true) ∧
    ∀ mentioned ∈ contract.tables, Passes table mentioned

theorem departmentKey_mem_columns (contract : SchemaContract) :
    contract.fact.departmentKey ∈ contract.columns := by
  simp [columns, FactTable.columns]

/-- A contract asks for its tables and for columns of them. -/
theorem mem_demands {contract : SchemaContract} {demand : Demand}
    (member : demand ∈ contract.demands) :
    (∃ name ∈ contract.tables, demand = .table name) ∨
      ∃ name ∈ contract.tables, ∃ column ∈ contract.columns, demand = .column name column := by
  have required : ∀ requirement ∈ contract.requiredColumns,
      requirement.1 ∈ contract.tables ∧ requirement.2 ⊆ contract.columns := by
    intro requirement listed
    rw [requiredColumns] at listed
    split at listed
    · obtain rfl := List.mem_singleton.mp listed
      exact ⟨by simp [tables], List.subset_append_right _ _⟩
    · simp only [List.mem_cons, List.not_mem_nil, or_false] at listed
      rcases listed with rfl | rfl
      · exact ⟨by simp [tables], List.subset_append_left _ _⟩
      · exact ⟨by simp [tables], List.subset_append_right _ _⟩
  obtain ⟨requirement, listed, demanded⟩ := List.mem_flatMap.mp member
  obtain ⟨named, within⟩ := required requirement listed
  rcases List.mem_cons.mp demanded with rfl | columnDemanded
  · exact .inl ⟨requirement.1, named, rfl⟩
  · obtain ⟨column, found, rfl⟩ := List.mem_map.mp columnDemanded
    exact .inr ⟨requirement.1, named, column, within found, rfl⟩

instance (contract : SchemaContract) (column : Column) :
    Decidable (contract.IgnoresColumn column) :=
  inferInstanceAs (Decidable (_ ∧ ∀ mentioned ∈ contract.columns, _))

instance (contract : SchemaContract) (table : Table) : Decidable (contract.IgnoresTable table) :=
  inferInstanceAs (Decidable ((∀ column ∈ table.columns, _) ∧ ∀ mentioned ∈ contract.tables, _))

end SchemaContract

/-- A change of how a table is presented. -/
inductive Table.Restates (contract : SchemaContract) (table changed : Table) : Prop where
  /-- The columns stand in another order. -/
  | order (name : changed.name = table.name) (columns : changed.columns.Perm table.columns)
  /-- Names of the table and its columns are in other letters. -/
  | letters (name : table.name.SameLetters changed.name)
      (columns : List.Forall₂ (fun column other => column.name.SameLetters other.name)
        table.columns changed.columns)
  /-- A schema and a point stand before the name. -/
  | schema {schema content : Text} (before : table.name = .text content)
      (after : changed.name = .text (schema ++ '.' :: content))
      (columns : changed.columns = table.columns)
  /-- There are more columns, which the contract does not mention. -/
  | more (name : changed.name = table.name) {added : List Column}
      (columns : changed.columns.Perm (table.columns ++ added))
      (ignored : ∀ column ∈ added, contract.IgnoresColumn column)

/-- A change of how a catalog is presented. -/
inductive Catalog.Restates (contract : SchemaContract) (catalog changed : Catalog) : Prop where
  /-- The tables stand in another order. -/
  | order (tables : changed.tables.Perm catalog.tables)
  /-- Every table is changed. -/
  | each (tables : List.Forall₂ (Table.Restates contract) catalog.tables changed.tables)
  /-- There are more tables, which the contract does not mention. -/
  | more {added : List Table} (tables : changed.tables.Perm (catalog.tables ++ added))
      (ignored : ∀ table ∈ added, contract.IgnoresTable table)

/-! ## What look-ups see -/

namespace Table

/-- The table is the one of the name, and it has the column. -/
def seen (name column : Text) (table : Table) : Bool × Bool :=
  (table.shares name, table.columns.any (·.goesBy column))

/-- What stands behind the last point in the name of a table, in small letters. -/
def component? (table : Table) : Option Text :=
  table.name.text?.map fun content => Text.afterLast '.' (Text.lower content)

/-- The table and its columns go by texts. -/
def Named (table : Table) : Prop :=
  table.name.text?.isSome = true ∧ ∀ column ∈ table.columns, column.name.text?.isSome = true

end Table

theorem Value.SameLetters.isCalled_eq {name other : Value} (same : name.SameLetters other)
    (test : Text → Bool) : other.isCalled test = name.isCalled test := by
  obtain ⟨content, changed, rfl, rfl, letters⟩ := same
  simp only [isCalled, text?, Option.any_some, letters.lower_eq]

theorem Value.SameLetters.isSome {name other : Value} (same : name.SameLetters other) :
    other.text?.isSome = true := by
  obtain ⟨content, changed, rfl, rfl, -⟩ := same
  rfl

/-- What every pair of related elements has alike is alike for the whole lists. -/
theorem map_eq_of_forall₂ {α β : Type} {related : α → α → Prop} {elements others : List α}
    {image : α → β} (pairs : List.Forall₂ related elements others)
    (alike : ∀ element other, related element other → image other = image element) :
    others.map image = elements.map image := by
  induction pairs with
  | nil => rfl
  | cons pair rest ih => rw [List.map_cons, List.map_cons, alike _ _ pair, ih]

theorem exists_of_mem_forall₂ {α β : Type} {related : α → β → Prop} {elements : List α}
    {others : List β} (pairs : List.Forall₂ related elements others) {other : β}
    (member : other ∈ others) : ∃ element ∈ elements, related element other := by
  induction pairs with
  | nil => simp at member
  | @cons element first rest lasts pair _ ih =>
      rcases List.mem_cons.mp member with rfl | later
      · exact ⟨element, List.mem_cons_self, pair⟩
      · obtain ⟨found, listed, same⟩ := ih later
        exact ⟨found, List.mem_cons_of_mem _ listed, same⟩

theorem any_eq_of_map_eq {α : Type} {test : α → Bool} {elements others : List α}
    (alike : others.map test = elements.map test) : others.any test = elements.any test := by
  have mapped : ∀ list : List α, list.any test = (list.map test).any id := fun list => by
    rw [List.any_map, Function.id_comp]
  rw [mapped others, alike, ← mapped]

namespace Vocabulary.WellFormed

variable {vocabulary : Vocabulary}

theorem ascii_component (wellFormed : vocabulary.WellFormed) {name : Text}
    (member : name ∈ vocabulary.schema.tables) :
    ∀ c ∈ Text.afterLast '.' (Text.lower name), c.toNat < 128 := by
  intro c within
  apply Text.ascii_lower (ascii_of_isIdentifier (wellFormed.isIdentifier_of_table name member))
  exact List.mem_reverse.mp (List.takeWhile_subset _ (List.mem_reverse.mp within))

/-- No change of a table shows. -/
theorem seen_of_restates (wellFormed : vocabulary.WellFormed) {table changed : Table}
    (restates : table.Restates vocabulary.schema changed) {name column : Text}
    (nameListed : name ∈ vocabulary.schema.tables)
    (columnListed : column ∈ vocabulary.schema.columns) :
    changed.seen name column = table.seen name column := by
  cases restates with
  | order sameName columns =>
      rw [Table.seen, Table.seen, Table.shares, Table.shares, sameName, columns.any_eq]
  | letters sameName columns =>
      have sameColumns : changed.columns.map (·.goesBy column) =
          table.columns.map (·.goesBy column) :=
        map_eq_of_forall₂ columns fun _ _ same => same.isCalled_eq _
      rw [Table.seen, Table.seen, Table.shares, Table.shares, sameName.isCalled_eq,
        any_eq_of_map_eq sameColumns]
  | @schema schema content before after columns =>
      have shared : changed.shares name = table.shares name := by
        rw [Bool.eq_iff_iff, Table.shares_iff, Table.shares_iff]
        simp only [before, after, Value.text.injEq, exists_eq_left']
        exact Text.afterLast_lower_qualified (wellFormed.ascii_component nameListed) schema content
      rw [Table.seen, Table.seen, shared, columns]
  | @more sameName added columns ignored =>
      have unseen : added.any (·.goesBy column) = false := by
        rw [List.any_eq_false]
        intro found member
        rw [(ignored found member).2 column columnListed]
        decide
      rw [Table.seen, Table.seen, Table.shares, Table.shares, sameName, columns.any_eq,
        List.any_append, unseen, Bool.or_false]

end Vocabulary.WellFormed

theorem Table.Named.restates {contract : SchemaContract} {table changed : Table}
    (named : table.Named) (restates : table.Restates contract changed) : changed.Named := by
  obtain ⟨text, texts⟩ := named
  cases restates with
  | order name columns =>
      exact ⟨by rw [name]; exact text,
        fun column member => texts column (columns.mem_iff.mp member)⟩
  | letters name columns =>
      refine ⟨name.isSome, fun other member => ?_⟩
      obtain ⟨column, -, same⟩ := exists_of_mem_forall₂ columns member
      exact same.isSome
  | schema before after columns =>
      exact ⟨by rw [after]; rfl, by rw [columns]; exact texts⟩
  | more name columns ignored =>
      refine ⟨by rw [name]; exact text, fun column member => ?_⟩
      rcases List.mem_append.mp (columns.mem_iff.mp member) with old | added
      · exact texts column old
      · exact (ignored column added).1

namespace Catalog

variable {contract : SchemaContract} {catalog changed other : Catalog}

/-- Look-ups see the same tables, but for tables that are not asked for. -/
def LooksLike (contract : SchemaContract) (catalog changed : Catalog) : Prop :=
  ∀ name ∈ contract.tables, ∀ column ∈ contract.columns, ∃ added : List (Bool × Bool),
    (changed.tables.map (Table.seen name column)).Perm
        (catalog.tables.map (Table.seen name column) ++ added) ∧
      ∀ seen ∈ added, seen.1 = false

theorem LooksLike.refl (contract : SchemaContract) (catalog : Catalog) :
    LooksLike contract catalog catalog :=
  fun _ _ _ _ => ⟨[], by rw [List.append_nil], by simp⟩

theorem LooksLike.trans (first : LooksLike contract catalog changed)
    (second : LooksLike contract changed other) : LooksLike contract catalog other := by
  intro name nameListed column columnListed
  obtain ⟨added, same, unasked⟩ := first name nameListed column columnListed
  obtain ⟨later, sameLater, unaskedLater⟩ := second name nameListed column columnListed
  refine ⟨added ++ later, ?_, List.forall_mem_append.mpr ⟨unasked, unaskedLater⟩⟩
  rw [← List.append_assoc]
  exact sameLater.trans (same.append_right later)

/-- No change of a catalog shows. -/
theorem looksLike_of_restates {vocabulary : Vocabulary} (wellFormed : vocabulary.WellFormed)
    (restates : catalog.Restates vocabulary.schema changed) :
    LooksLike vocabulary.schema catalog changed := by
  intro name nameListed column columnListed
  cases restates with
  | order tables => exact ⟨[], by rw [List.append_nil]; exact tables.map _, by simp⟩
  | each tables =>
      refine ⟨[], ?_, by simp⟩
      rw [List.append_nil, map_eq_of_forall₂ tables fun _ _ restated =>
        wellFormed.seen_of_restates restated nameListed columnListed]
  | @more added tables ignored =>
      refine ⟨added.map (Table.seen name column), ?_, ?_⟩
      · rw [← List.map_append]
        exact tables.map _
      · intro seen member
        obtain ⟨table, listed, rfl⟩ := List.mem_map.mp member
        exact ((ignored table listed).2 name nameListed).2

theorem Named.restates (named : catalog.Named) (restates : catalog.Restates contract changed) :
    changed.Named := by
  cases restates with
  | order tables => exact fun table member => named table (tables.mem_iff.mp member)
  | each tables =>
      intro table member
      obtain ⟨before, listed, restated⟩ := exists_of_mem_forall₂ tables member
      exact Table.Named.restates (named before listed) restated
  | more tables ignored =>
      intro table member
      rcases List.mem_append.mp (tables.mem_iff.mp member) with old | added
      · exact named table old
      · have unasked := ignored table added
        exact ⟨(unasked.2 contract.fact.table (by simp [SchemaContract.tables])).1, unasked.1⟩

/-! ## Catalogs that look alike -/

/-- Of at most one element that passes a test, the search for it tells everything. -/
theorem any_find?_of_countP_le_one {α : Type} {test further : α → Bool} {elements : List α}
    (once : elements.countP test ≤ 1) :
    (elements.find? test).any further =
      elements.any fun element => test element && further element := by
  induction elements with
  | nil => rfl
  | cons element rest ih =>
      rw [List.find?_cons, List.any_cons]
      by_cases passes : test element = true
      · have others : rest.countP test = 0 := by
          rw [List.countP_cons_of_pos passes] at once
          omega
        have nothing : (rest.any fun other => test other && further other) = false := by
          rw [List.any_eq_false]
          intro other member
          simp [List.countP_eq_zero.mp others other member]
        simp [passes, nothing]
      · rw [List.countP_cons_of_neg passes] at once
        simp [passes, ih once]

/-- At most one table is asked for under each name. -/
def Unambiguous (contract : SchemaContract) (catalog : Catalog) : Prop :=
  ∀ name ∈ contract.tables, catalog.tables.countP (·.shares name) ≤ 1

theorem LooksLike.any_eq (alike : LooksLike contract catalog changed) {name column : Text}
    (nameListed : name ∈ contract.tables) (columnListed : column ∈ contract.columns)
    {test : Bool × Bool → Bool} (asked : ∀ seen, seen.1 = false → test seen = false) :
    (changed.tables.any fun table => test (table.seen name column)) =
      catalog.tables.any fun table => test (table.seen name column) := by
  obtain ⟨added, same, unasked⟩ := alike name nameListed column columnListed
  have nothing : added.any test = false := by
    rw [List.any_eq_false]
    intro seen member
    simp [asked seen (unasked seen member)]
  have mapped : ∀ tables : List Table, (tables.any fun table => test (table.seen name column)) =
      (tables.map (Table.seen name column)).any test := fun tables => by
    rw [List.any_map]
    rfl
  rw [mapped, mapped, same.any_eq, List.any_append, nothing, Bool.or_false]

theorem LooksLike.unambiguous (alike : LooksLike contract catalog changed)
    (unambiguous : Unambiguous contract catalog) : Unambiguous contract changed := by
  intro name nameListed
  obtain ⟨added, same, unasked⟩ := alike name nameListed _ contract.departmentKey_mem_columns
  have nothing : added.countP Prod.fst = 0 := by
    rw [List.countP_eq_zero]
    intro seen member
    simp [unasked seen member]
  have mapped : ∀ tables : List Table, tables.countP (·.shares name) =
      (tables.map (Table.seen name contract.fact.departmentKey)).countP Prod.fst := fun tables => by
    rw [List.countP_map]
    rfl
  rw [mapped, same.countP_eq, List.countP_append, nothing, Nat.add_zero, ← mapped]
  exact unambiguous name nameListed

theorem Named.lacks_table (named : catalog.Named) (name : Text) :
    catalog.lacks (.table name) = !catalog.tables.any (·.shares name) := by
  rw [lacks, named.table_eq, ← List.isSome_find?]
  cases catalog.tables.find? (·.shares name) <;> rfl

theorem Named.lacks_column (named : catalog.Named) (name column : Text) :
    catalog.lacks (.column name column) = (catalog.tables.find? (·.shares name)).any
      fun table => !table.columns.any (·.goesBy column) := by
  rw [lacks, named.table_eq]
  cases search : catalog.tables.find? (·.shares name) with
  | none => rfl
  | some table =>
      simp only [named.column_eq (List.mem_of_find?_eq_some search), Option.any_some,
        ← List.isSome_find?]
      cases table.columns.find? (·.goesBy column) <;> rfl

/-- Catalogs that look alike lack the same of what a contract asks for. -/
theorem LooksLike.lacks_eq (alike : LooksLike contract catalog changed) (named : catalog.Named)
    (changedNamed : changed.Named) (unambiguous : Unambiguous contract catalog) {demand : Demand}
    (member : demand ∈ contract.demands) : changed.lacks demand = catalog.lacks demand := by
  rcases contract.mem_demands member with ⟨name, nameListed, rfl⟩ |
    ⟨name, nameListed, column, columnListed, rfl⟩
  · have shared := alike.any_eq nameListed contract.departmentKey_mem_columns
      (fun _ unasked => unasked)
    rw [changedNamed.lacks_table, named.lacks_table]
    exact congrArg Bool.not shared
  · have changedUnambiguous := alike.unambiguous unambiguous
    have lacking : ∀ seen : Bool × Bool, seen.1 = false → (seen.1 && !seen.2) = false := by
      rintro ⟨_, _⟩ rfl
      rfl
    rw [changedNamed.lacks_column, named.lacks_column,
      any_find?_of_countP_le_one (changedUnambiguous name nameListed),
      any_find?_of_countP_le_one (unambiguous name nameListed)]
    exact alike.any_eq nameListed columnListed lacking

/-! ## Runs of changes -/

/-- Changes after one another show no more than a single one. -/
theorem looksLike_of_run {vocabulary : Vocabulary} (wellFormed : vocabulary.WellFormed)
    (named : catalog.Named)
    (run : Relation.ReflTransGen (Restates vocabulary.schema) catalog changed) :
    LooksLike vocabulary.schema catalog changed ∧ changed.Named := by
  induction run with
  | refl => exact ⟨.refl _ _, named⟩
  | tail _ step ih =>
      exact ⟨ih.1.trans (looksLike_of_restates wellFormed step), ih.2.restates step⟩

theorem unambiguous_of_nodup (distinct : (catalog.tables.map Table.component?).Nodup) :
    Unambiguous contract catalog := by
  intro name _
  have same : ∀ table : Table, table.shares name =
      (table.component? == some (Text.afterLast '.' (Text.lower name))) := by
    intro table
    rw [Table.shares, Table.component?]
    cases table.name <;> simp [Value.isCalled, Value.text?]
  simp only [same]
  rw [← Function.comp_def (fun component => component == _) Table.component?, ← List.countP_map,
    ← List.count_eq_countP]
  exact List.nodup_iff_count_le_one.mp distinct _

/-- However a catalog is presented, the same is missing from it, as long as the last components of
its tables are distinct. -/
theorem missing_eq_of_restated {raw : Value} {vocabulary : Vocabulary}
    (accepted : Vocabulary.read raw = .ok vocabulary) {catalog changed : Catalog}
    (named : catalog.Named) (distinct : (catalog.tables.map Table.component?).Nodup)
    (restated : Relation.ReflTransGen (Restates vocabulary.schema) catalog changed) :
    ∃ entries, catalog.missing vocabulary.schema = .ok entries ∧
      changed.missing vocabulary.schema = .ok entries := by
  obtain ⟨alike, changedNamed⟩ :=
    looksLike_of_run (Vocabulary.wellFormed_of_read accepted) named restated
  obtain ⟨entries, found⟩ := exists_missing named vocabulary.schema
  obtain ⟨others, othersFound⟩ := exists_missing changedNamed vocabulary.schema
  have unmet : vocabulary.schema.demands.filter changed.lacks =
      vocabulary.schema.demands.filter catalog.lacks :=
    List.filter_congr fun _ member =>
      alike.lacks_eq named changedNamed (unambiguous_of_nodup distinct) member
  refine ⟨entries, found, ?_⟩
  rw [othersFound, missing_eq othersFound, missing_eq found, unmet]

/-- A catalog that lacks two columns of the fact table. -/
def gapped : Catalog where
  tables :=
    (single "readings" ["site_id", "label", "amount"]).tables ++
      (single "sites" ["id", "title", "code"]).tables

/-- The same tables in another order, in other letters and under a schema, with a column and a
table more. -/
def gappedRestated : Catalog where
  tables :=
    (single "log" ["line"]).tables ++ ((single "public.Sites" ["ID", "Title", "code"]).tables ++
      (single "readings" ["amount", "note", "label", "site_id"]).tables)

theorem gapped_restated :
    Relation.ReflTransGen (Restates Vocabulary.sampleVocabulary.schema) gapped gappedRestated := by
  let sites := fun (name : Text) (columns : List Text) => (single name columns).tables
  let readings := (single "readings" ["site_id", "label", "amount"]).tables
  have recased : ∀ content changed : Text, Text.SameLetters content changed →
      (Value.text content).SameLetters (.text changed) := fun content changed same =>
    ⟨content, changed, rfl, rfl, same⟩
  have ordered : Restates Vocabulary.sampleVocabulary.schema gapped
      { tables := sites "sites" ["id", "title", "code"] ++ readings } :=
    .order (List.perm_append_comm)
  have lettered : Restates Vocabulary.sampleVocabulary.schema
      { tables := sites "sites" ["id", "title", "code"] ++ readings }
      { tables := sites "Sites" ["ID", "Title", "code"] ++ readings } := by
    refine .each (.cons (.letters (recased _ _ (by decide)) ?_)
      (.cons (.order rfl (List.Perm.refl _)) .nil))
    exact .cons (recased _ _ (by decide)) (.cons (recased _ _ (by decide))
      (.cons (recased _ _ (by decide)) .nil))
  have qualified : Restates Vocabulary.sampleVocabulary.schema
      { tables := sites "Sites" ["ID", "Title", "code"] ++ readings }
      { tables := sites "public.Sites" ["ID", "Title", "code"] ++
          (single "readings" ["amount", "note", "label", "site_id"]).tables } := by
    have names : (["amount", "note", "label", "site_id"] : List Text).Perm
        (["site_id", "label", "amount"] ++ ["note"]) := by
      decide
    have ignored : ∀ column ∈ (["note"] : List Text).map
          fun given => ({ name := .text given } : Column),
        Vocabulary.sampleVocabulary.schema.IgnoresColumn column := by
      decide +kernel
    exact .each (.cons (@Table.Restates.schema _ _ _ "public" "Sites" rfl rfl rfl)
      (.cons (.more rfl (names.map fun given => ({ name := .text given } : Column)) ignored) .nil))
  have extended : Restates Vocabulary.sampleVocabulary.schema
      { tables := sites "public.Sites" ["ID", "Title", "code"] ++
          (single "readings" ["amount", "note", "label", "site_id"]).tables }
      gappedRestated :=
    have ignored : ∀ table ∈ (single "log" ["line"]).tables,
        Vocabulary.sampleVocabulary.schema.IgnoresTable table := by
      decide +kernel
    .more List.perm_append_comm ignored
  exact .tail (.tail (.tail (.tail .refl ordered) lettered) qualified) extended

theorem missing_eq_gapped :
    gapped.missing Vocabulary.sampleVocabulary.schema =
        .ok ["readings.taken_on", "readings.change"] ∧
      gappedRestated.missing Vocabulary.sampleVocabulary.schema =
        .ok ["readings.taken_on", "readings.change"] := by
  have named : gapped.Named := by
    decide
  obtain ⟨entries, missing, same⟩ := missing_eq_of_restated Vocabulary.read_sampleSource named
    (by decide +kernel) gapped_restated
  have found : gapped.missing Vocabulary.sampleVocabulary.schema =
      .ok ["readings.taken_on", "readings.change"] := by
    with_unfolding_all rfl
  exact ⟨found, same.trans (missing.symm.trans found)⟩

end Catalog

end Inquiry
