import Inquiry.Proofs.Catalog.Shape
import Inquiry.Proofs.Statement.Names
import Inquiry.Proofs.Text.Pieces

/-!
# The demands of a contract

A contract asks for its tables and for columns of each of them.  Of a table that is not there only
the table is reported as missing, and otherwise the columns that it lacks.

Entries tell tables and columns apart by a point.  Names of a contract have none, so every entry is
read as what it was written for, and the complaints match the entries one by one.
-/

namespace Inquiry

/-- A table that a contract asks for, or a column of it. -/
inductive Demand where
  | table (name : Text)
  | column (owner name : Text)
  deriving Repr, DecidableEq

namespace Demand

/-- How an unmet demand is listed. -/
def entry : Demand → Text
  | .table name => name
  | .column owner name => owner ++ "." ++ name

/-- What an entry is read as. -/
def ofEntry (entry : Text) : Demand :=
  match Text.cut? '.' entry with
  | some (owner, name) => .column owner name
  | none => .table entry

/-- What is said about an unmet demand. -/
def message : Demand → Text
  | .table name => "Required table '" ++ name ++ "' is not in the schema catalog."
  | .column owner name => "Column '" ++ name ++ "' is missing from table '" ++ owner ++ "'."

/-- The names in the demand. -/
def names : Demand → List Text
  | .table name => [name]
  | .column owner name => [owner, name]

/-- The names in the demand hold neither points nor quotation marks. -/
def IsPlain (demand : Demand) : Prop :=
  ∀ name ∈ demand.names, '.' ∉ name ∧ '\'' ∉ name

variable {demand : Demand}

theorem ofEntry_entry (plain : demand.IsPlain) : ofEntry demand.entry = demand := by
  cases demand with
  | table name =>
      have pointless := (plain name (by simp [names])).1
      rw [entry, ofEntry, Text.cut?_of_not_mem pointless]
  | column owner name =>
      have pointless := (plain owner (by simp [names])).1
      have written : (column owner name).entry = owner ++ '.' :: name :=
        List.append_assoc owner ['.'] name
      rw [written, ofEntry, Text.cut?_append pointless]

/-- A complaint is about what its entry is read as. -/
theorem complaint_eq (entry : Text) : Catalog.complaint entry = (ofEntry entry).message := by
  rw [Catalog.complaint, ofEntry]
  cases Text.cut? '.' entry <;> rfl

theorem complaint_entry (plain : demand.IsPlain) :
    Catalog.complaint demand.entry = demand.message := by
  rw [complaint_eq, ofEntry_entry plain]

theorem entry_injective {other : Demand} (plain : demand.IsPlain) (otherPlain : other.IsPlain)
    (same : demand.entry = other.entry) : demand = other := by
  rw [← ofEntry_entry plain, same, ofEntry_entry otherPlain]

/-- A text without quotation marks is a piece of its own between two of them. -/
theorem pieces_quoted {name : Text} (unquoted : '\'' ∉ name) (before after : Text) :
    Text.pieces '\'' ((before ++ ['\'']) ++ name ++ (['\''] ++ after)) =
      Text.pieces '\'' before ++ name :: Text.pieces '\'' after := by
  have regrouped : (before ++ ['\'']) ++ name ++ (['\''] ++ after) =
      before ++ '\'' :: (name ++ '\'' :: after) := by
    simp only [List.append_assoc, List.cons_append, List.nil_append]
  rw [regrouped, Text.pieces_append_mark, Text.pieces_append_mark,
    Text.pieces_of_not_mem unquoted, List.singleton_append]

/-- What stands between the quotation marks of a message. -/
theorem pieces_message (plain : demand.IsPlain) : Text.pieces '\'' demand.message =
    match demand with
    | .table name => ["Required table ", name, " is not in the schema catalog."]
    | .column owner name => ["Column ", name, " is missing from table ", owner, "."] := by
  cases demand with
  | table name =>
      have unquoted := (plain name (by simp [names])).2
      have opening : "Required table '".toList = "Required table ".toList ++ ['\''] := by decide
      have closing : "' is not in the schema catalog.".toList =
          ['\''] ++ " is not in the schema catalog.".toList := by decide
      have written : (table name).message = ("Required table ".toList ++ ['\'']) ++ name ++
          (['\''] ++ " is not in the schema catalog.".toList) :=
        congrArg₂ (fun front back => front ++ name ++ back) opening closing
      rw [written, pieces_quoted unquoted, Text.pieces_of_not_mem (by decide),
        Text.pieces_of_not_mem (by decide)]
      rfl
  | column owner name =>
      have unquoted := (plain name (by simp [names])).2
      have ownerUnquoted := (plain owner (by simp [names])).2
      have opening : "Column '".toList = "Column ".toList ++ ['\''] := by decide
      have between : "' is missing from table '".toList =
          (['\''] ++ " is missing from table ".toList) ++ ['\''] := by decide
      have closing : "'.".toList = ['\''] ++ ".".toList := by decide
      have front : "Column '".toList ++ name ++ "' is missing from table '".toList =
          ("Column ".toList ++ ['\'']) ++ name ++ (['\''] ++ " is missing from table ".toList) ++
            ['\''] :=
        (congrArg₂ (fun left right => left ++ name ++ right) opening between).trans
          (List.append_assoc _ _ _).symm
      have written : (column owner name).message = (("Column ".toList ++ ['\'']) ++ name ++
          (['\''] ++ " is missing from table ".toList) ++ ['\'']) ++ owner ++
            (['\''] ++ ".".toList) :=
        congrArg₂ (fun left right => left ++ owner ++ right) front closing
      rw [written, pieces_quoted ownerUnquoted, pieces_quoted unquoted,
        Text.pieces_of_not_mem (by decide), Text.pieces_of_not_mem (by decide),
        Text.pieces_of_not_mem (by decide)]
      rfl

theorem message_injective {other : Demand} (plain : demand.IsPlain) (otherPlain : other.IsPlain)
    (same : demand.message = other.message) : demand = other := by
  have parts := congrArg (Text.pieces '\'') same
  rw [pieces_message plain, pieces_message otherPlain] at parts
  cases demand <;> cases other <;> simp at parts
  case table.table => rw [parts]
  case column.column => rw [parts.1, parts.2]

end Demand

/-! ## Unmet demands -/

/-- What is demanded of one table. -/
def Demand.ofRequirement (requirement : Text × List Text) : List Demand :=
  .table requirement.1 :: requirement.2.map (.column requirement.1)

/-- What a contract asks for, table by table. -/
def SchemaContract.demands (contract : SchemaContract) : List Demand :=
  contract.requiredColumns.flatMap Demand.ofRequirement

/-- The demands of a contract that was read are plain. -/
theorem Vocabulary.WellFormed.isPlain_of_mem {vocabulary : Vocabulary}
    (wellFormed : vocabulary.WellFormed) {demand : Demand}
    (member : demand ∈ vocabulary.schema.demands) : demand.IsPlain := by
  have plain : ∀ name : Text, isIdentifier name = true → '.' ∉ name ∧ '\'' ∉ name := by
    intro name identifier
    have parts := parts_of_isIdentifier identifier
    exact ⟨fun point => absurd (parts _ point) (by decide),
      fun quote => absurd (parts _ quote) (by decide)⟩
  obtain ⟨requirement, listed, demanded⟩ := List.mem_flatMap.mp member
  intro name within
  apply plain
  apply wellFormed.isIdentifier_of_required requirement listed
  rcases List.mem_cons.mp demanded with rfl | column
  · obtain rfl : name = requirement.1 := List.mem_singleton.mp within
    exact List.mem_cons_self
  · obtain ⟨columnName, found, rfl⟩ := List.mem_map.mp column
    have either : name = requirement.1 ∨ name = columnName := by
      simpa only [Demand.names, List.mem_cons, List.not_mem_nil, or_false] using within
    rcases either with rfl | rfl
    · exact List.mem_cons_self
    · exact List.mem_cons_of_mem _ found

namespace Catalog

variable {catalog : Catalog} {name : Text}

/-- A look-up tells that a demand is not met: there is no such table, or the table that is found
has no such column. -/
def lacks (catalog : Catalog) : Demand → Bool
  | .table name =>
      match catalog.table name with
      | .ok none => true
      | _ => false
  | .column name column =>
      match catalog.table name with
      | .ok (some table) =>
          match table.column column with
          | .ok none => true
          | _ => false
      | _ => false

theorem lacks_column {table : Table} (found : catalog.table name = .ok (some table))
    {column : Text} {search : Option Column} (searched : table.column column = .ok search) :
    catalog.lacks (.column name column) = search.isNone := by
  simp only [lacks, found, searched]
  cases search <;> rfl

theorem missingColumns_eq {table : Table} (found : catalog.table name = .ok (some table))
    {columns entries : List Text} (success : missingColumns table name columns = .ok entries) :
    entries = ((columns.map (.column name)).filter catalog.lacks).map Demand.entry := by
  induction columns generalizing entries with
  | nil =>
      cases success
      rfl
  | cons column rest ih =>
      rw [missingColumns] at success
      obtain ⟨search, searched, success⟩ := Outcome.bind_eq_ok.mp success
      obtain ⟨others, othersFound, success⟩ := Outcome.bind_eq_ok.mp success
      obtain rfl := Outcome.pure_eq_ok.mp success
      rw [List.map_cons, List.filter_cons, lacks_column found searched, ih othersFound]
      cases search with
      | none => simp [Demand.entry]
      | some => simp

theorem missingFrom_eq {columns entries : List Text}
    (success : catalog.missingFrom name columns = .ok entries) :
    entries = ((Demand.ofRequirement (name, columns)).filter catalog.lacks).map Demand.entry := by
  rw [missingFrom] at success
  obtain ⟨search, searched, success⟩ := Outcome.bind_eq_ok.mp success
  rw [Demand.ofRequirement, List.filter_cons]
  cases search with
  | none =>
      have absent : catalog.lacks (.table name) = true := by simp [lacks, searched]
      have unasked : (columns.map (.column name)).filter catalog.lacks = [] := by
        rw [List.filter_eq_nil_iff]
        intro demand member
        obtain ⟨column, -, rfl⟩ := List.mem_map.mp member
        simp [lacks, searched]
      rw [if_pos absent, unasked, List.map_singleton, Demand.entry]
      exact (Except.ok.inj success).symm
  | some table =>
      have present : ¬catalog.lacks (.table name) = true := by simp [lacks, searched]
      rw [if_neg present]
      exact missingColumns_eq searched success

/-- What is missing are the unmet demands of the contract, in order. -/
theorem missing_eq {contract : SchemaContract} {entries : List Text}
    (success : catalog.missing contract = .ok entries) :
    entries = (contract.demands.filter catalog.lacks).map Demand.entry := by
  rw [missing] at success
  rw [SchemaContract.demands]
  generalize contract.requiredColumns = requirements at success ⊢
  induction requirements generalizing entries with
  | nil =>
      cases success
      rfl
  | cons requirement rest ih =>
      rw [missingOf_cons] at success
      obtain ⟨missing, missingFound, success⟩ := Outcome.bind_eq_ok.mp success
      obtain ⟨others, othersFound, success⟩ := Outcome.bind_eq_ok.mp success
      obtain rfl := Outcome.pure_eq_ok.mp success
      rw [List.flatMap_cons, List.filter_append, List.map_append, ih othersFound,
        missingFrom_eq missingFound]

/-! ## Complaints -/

theorem complaints_of_tables {contract : SchemaContract} (nonempty : catalog.tables ≠ []) :
    catalog.complaints contract = (catalog.missing contract).map (List.map complaint) := by
  rw [complaints, if_neg (by simpa using nonempty)]
  cases catalog.missing contract <;> rfl

/-- A catalog without tables does not have those of the contract. -/
theorem missing_ne_nil_of_no_tables {contract : SchemaContract} (empty : catalog.tables = []) :
    catalog.missing contract ≠ .ok [] := by
  have notFound : catalog.table contract.dimension.table = .ok none := by
    rw [Catalog.table, empty, firstAccepted]
  intro satisfied
  have has := (missing_eq_nil.mp satisfied).2 contract.dimension.key
    (by simp [DimensionTable.columns])
  obtain ⟨table, -, found, -⟩ := has
  rw [notFound] at found
  cases found

/-- The complaints about a catalog match the missing entries one by one, each about the table or
the column that its entry was written for.  There are none where nothing is missing. -/
theorem complaints_agree {raw : Value} {vocabulary : Vocabulary}
    (accepted : Vocabulary.read raw = .ok vocabulary) (catalog : Catalog) :
    let contract := vocabulary.schema
    let unmet := contract.demands.filter catalog.lacks
    (catalog.complaints contract = .ok [] ↔ catalog.missing contract = .ok []) ∧
      (catalog.Named → ∃ entries, catalog.missing contract = .ok entries) ∧
      (catalog.tables ≠ [] →
        (∀ fault, catalog.complaints contract = .error fault ↔
          catalog.missing contract = .error fault) ∧
        ∀ entries, catalog.missing contract = .ok entries →
          entries = unmet.map Demand.entry ∧
            catalog.complaints contract = .ok (unmet.map Demand.message)) ∧
      ∀ first ∈ contract.demands, ∀ second ∈ contract.demands,
        (first.entry = second.entry → first = second) ∧
          (first.message = second.message → first = second) := by
  intro contract unmet
  have wellFormed := Vocabulary.wellFormed_of_read accepted
  refine ⟨?_, fun named => exists_missing named contract, fun nonempty => ⟨?_, ?_⟩, ?_⟩
  · by_cases empty : catalog.tables = []
    · have single : catalog.complaints contract ≠ .ok [] := by
        rw [complaints, if_pos (by simpa using empty)]
        cases catalog.schemaName.write <;> simp [bind, Except.bind, pure, Except.pure]
      exact iff_of_false single (missing_ne_nil_of_no_tables empty)
    · rw [complaints_of_tables empty]
      cases catalog.missing contract <;> simp [Except.map]
  · intro fault
    rw [complaints_of_tables nonempty]
    cases catalog.missing contract <;> simp [Except.map]
  · intro entries success
    have listed := missing_eq success
    refine ⟨listed, ?_⟩
    rw [complaints_of_tables nonempty, success, Except.map, listed, List.map_map]
    congr 1
    apply List.map_congr_left
    intro demand member
    exact Demand.complaint_entry (wellFormed.isPlain_of_mem (List.mem_of_mem_filter member))
  · intro first firstListed second secondListed
    have firstPlain := wellFormed.isPlain_of_mem firstListed
    have secondPlain := wellFormed.isPlain_of_mem secondListed
    exact ⟨Demand.entry_injective firstPlain secondPlain,
      Demand.message_injective firstPlain secondPlain⟩

theorem complaints_agree_sample :
    let catalog := single "readings" ["site_id", "amount", "taken_on", "change"]
    catalog.missing Vocabulary.sampleVocabulary.schema = .ok ["readings.label", "sites"] ∧
      catalog.complaints Vocabulary.sampleVocabulary.schema =
        .ok ["Column 'label' is missing from table 'readings'.",
          "Required table 'sites' is not in the schema catalog."] := by
  intro catalog
  have missing : catalog.missing Vocabulary.sampleVocabulary.schema =
      .ok ["readings.label", "sites"] := by
    with_unfolding_all rfl
  obtain ⟨-, -, agree, -⟩ := complaints_agree Vocabulary.read_sampleSource catalog
  obtain ⟨-, complaints⟩ := (agree (List.cons_ne_nil _ _)).2 _ missing
  refine ⟨missing, ?_⟩
  rw [complaints]
  with_unfolding_all rfl

end Catalog

end Inquiry
