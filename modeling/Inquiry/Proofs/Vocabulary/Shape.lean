import Inquiry.Proofs.Value.Shape
import Inquiry.Proofs.Vocabulary.WellFormed

/-!
# Shapes of vocabularies

A reader of vocabularies looks entries up and iterates over lists before it has made sure that
there are any, and takes the text of a value before it has made sure that there is one.  It tells
what is wrong with a vocabulary as long as there is a mapping wherever entries are looked up,
something to iterate over wherever several items are expected, a number wherever a limit is, and no
integer that is too long wherever a text is.
-/

namespace Inquiry.Vocabulary

open Outcome (Hinges)
open Value (IsMapping ListedUnder SectionUnder Yields)

/-- The fault tells what is wrong with a vocabulary. -/
def IsFlaw (fault : Fault) : Prop :=
  ∃ flaw, fault = .vocabulary flaw

/-- The faults of reading a vocabulary: flaws, and the faults of values that cannot be used where
they stand. -/
inductive IsReadingFault : Fault → Prop where
  | flaw (flaw : VocabularyFlaw) : IsReadingFault (.vocabulary flaw)
  | wrongType : IsReadingFault .wrongType
  | malformedInteger (given : Text) : IsReadingFault (.malformedInteger 10 given)
  | integerTooLong (digits : Nat) : IsReadingFault (.integerTooLong digits)
  | undefinedNumber : IsReadingFault .undefinedNumber
  | infiniteNumber : IsReadingFault .infiniteNumber
  | unwritableInteger : IsReadingFault .unwritableInteger
  | oversizedRepetition : IsReadingFault .oversizedRepetition
  | oversizedCharacter : IsReadingFault .oversizedCharacter
  | incompatibleOptions : IsReadingFault .incompatibleOptions

theorem hinges_flaw {α : Type} (shape : Prop) (flaw : VocabularyFlaw) :
    Hinges IsReadingFault IsFlaw shape (.error (.vocabulary flaw) : Except Fault α) :=
  .error (.flaw flaw) ⟨flaw, rfl⟩

/-- A flaw that names a value is told if the value can be written. -/
theorem hinges_flawOf {α : Type} {shape : Prop} {given : Value} (flaw : Text → VocabularyFlaw)
    (writable : shape → given.IsWritable) :
    Hinges IsReadingFault IsFlaw shape (.error (flawOf given flaw) : Except Fault α) := by
  rw [flawOf]
  cases written : given.literal? with
  | some content => exact hinges_flaw ..
  | none =>
      refine .error_of_not .unwritableInteger fun holds => ?_
      have known := (Value.isSome_literal? given).mpr (writable holds)
      rw [written] at known
      cases known

/-! ## Entries -/

/-- What is given under a key can be written. -/
def WritableUnder (key : Text) (entries : List (Value × Value)) : Prop :=
  ∀ value, Value.lookup? key entries = some value → value.IsWritable

theorem isWritable_getD {key : Text} {default : Value} (usual : default.IsWritable)
    {entries : List (Value × Value)} : ((Value.lookup? key entries).getD default).IsWritable ↔
      WritableUnder key entries := by
  rw [WritableUnder]
  cases Value.lookup? key entries with
  | none => simp [usual]
  | some value => simp

theorem writableUnder_of_text {key content : Text} {entries : List (Value × Value)}
    (found : Value.lookup? key entries = some (.text content)) : WritableUnder key entries := by
  rintro value same
  cases found.symm.trans same
  trivial

theorem hinges_identifier (entries : List (Value × Value)) (key place : Text) :
    Hinges IsReadingFault IsFlaw (WritableUnder key entries)
      (identifier (.mapping entries) key place) := by
  have usual : Value.null.IsWritable := trivial
  rw [identifier, Value.entries, Outcome.ok_bind]
  split
  next name found =>
    split
    · exact .ok (writableUnder_of_text found) name
    · exact hinges_flawOf _ fun _ => trivial
  · exact hinges_flawOf _ (isWritable_getD usual).mpr

theorem hinges_displayed (entries : List (Value × Value)) (key : Text) :
    Hinges IsReadingFault IsFlaw (WritableUnder key entries) (displayed entries key) := by
  rw [displayed, WritableUnder]
  cases Value.lookup? key entries with
  | none => exact .ok (by simp) []
  | some value => exact (Value.hinges_write .unwritableInteger value).congr (by simp)

theorem hinges_phrases (entries : List (Value × Value)) (key place : Text) :
    Hinges IsReadingFault IsFlaw (ListedUnder key Value.IsWritable entries)
      (phrases entries key place) := by
  apply Hinges.congr _ Value.yields_presentOr
  apply Value.hinges_elements_bind .wrongType
  intro items
  refine (Hinges.mapM fun item _ => Value.hinges_write .unwritableInteger item).bind_true ?_
  intro spelled _
  dsimp only
  split
  · exact hinges_flaw ..
  · exact .ok trivial _

/-- Some fields that can be written and a list of such items, all of which may also be missing. -/
def HasFields (fields : List Text) (key : Text) (each : Value → Prop)
    (entries : List (Value × Value)) : Prop :=
  (∀ field ∈ fields, WritableUnder field entries) ∧ ListedUnder key each entries

/-- An entry with such fields. -/
def IsEntry (fields : List Text) (key : Text) (each : Value → Prop) (raw : Value) : Prop :=
  raw.IsMapping (HasFields fields key each)

section Fields

variable {field key : Text} {fields : List Text} {each : Value → Prop}
  {entries : List (Value × Value)}

theorem hasFields_nil : HasFields [] key each entries ↔ ListedUnder key each entries := by
  simp [HasFields]

theorem hasFields_cons : HasFields (field :: fields) key each entries ↔
    WritableUnder field entries ∧ HasFields fields key each entries := by
  simp only [HasFields, List.forall_mem_cons, and_assoc]

/-- A kind that is found was given as a text. -/
theorem hasFields_of_kind {α : Type} [Tagged α] {allowed : α → Bool} {kind : α}
    (found : kindOf allowed entries = some kind) :
    HasFields ("kind" :: fields) key each entries ↔ HasFields fields key each entries := by
  obtain ⟨tag, given, -⟩ := Option.bind_eq_some_iff.mp found
  obtain ⟨value, looked, content⟩ := Option.bind_eq_some_iff.mp given
  cases value with
  | text tag => exact hasFields_cons.trans (and_iff_right (writableUnder_of_text looked))
  | _ => cases content

/-- Any other kind is refused with its literal. -/
theorem hinges_givenKind {α : Type} (flaw : Text → VocabularyFlaw) :
    Hinges IsReadingFault IsFlaw (HasFields ("kind" :: fields) key each entries)
      (.error (flawOf (givenKind entries) flaw) : Except Fault α) := by
  have usual : Value.null.IsWritable := trivial
  exact hinges_flawOf flaw fun shape => (isWritable_getD usual).mpr (hasFields_cons.mp shape).1

end Fields

/-- A department with its synonyms. -/
def IsDepartment : Value → Prop :=
  IsEntry ["code"] "synonyms" Value.IsWritable

/-- A date window with its phrases. -/
def IsDateRange : Value → Prop :=
  IsEntry ["kind", "predicate"] "phrases" Value.IsWritable

/-- A way of summarising with its keywords. -/
def IsAggregation : Value → Prop :=
  IsEntry ["kind", "function", "column", "output"] "keywords" Value.IsWritable

/-- A metric keyword with the names that it stands for. -/
def IsMetric : Value → Prop :=
  IsEntry ["keyword"] "names" fun _ => True

/-- A ranking with its keywords. -/
def IsComparison : Value → Prop :=
  IsEntry ["kind", "direction"] "keywords" Value.IsWritable

theorem hinges_readDepartment (raw : Value) :
    Hinges IsReadingFault IsFlaw (IsDepartment raw) (readDepartment raw) := by
  apply Value.hinges_entries_bind .wrongType
  intro entries _
  apply Hinges.congr _ hasFields_cons.symm
  refine (hinges_displayed entries "code").bind fun given _ => ?_
  dsimp only
  split
  · exact hinges_flaw ..
  · exact .congr ((hinges_phrases ..).bind_true fun _ _ => .ok trivial _) hasFields_nil.symm

theorem hinges_readDateRange (contract : SchemaContract) (raw : Value) :
    Hinges IsReadingFault IsFlaw (IsDateRange raw) (readDateRange contract raw) := by
  apply Value.hinges_entries_bind .wrongType
  intro entries _
  split
  · exact hinges_givenKind _
  next kind found =>
    apply Hinges.congr _ ((hasFields_of_kind found).trans hasFields_cons).symm
    refine (hinges_displayed entries "predicate").bind fun given _ => ?_
    dsimp only
    split
    · exact hinges_flaw ..
    · exact .congr ((hinges_phrases ..).bind_true fun _ _ => .ok trivial _) hasFields_nil.symm

/-- A role that may be summarised was given as a text, if it was given. -/
theorem writableUnder_of_summarised {fact : FactTable} {entries : List (Value × Value)}
    {name : Text} (found : summarised? fact
      ((Value.lookup? "column" entries).getD (.text "metric_value")) = some name) :
    WritableUnder "column" entries := by
  intro value looked
  rw [looked, Option.getD_some] at found
  cases value with
  | text role => trivial
  | _ => cases found

theorem hinges_readAggregation (contract : SchemaContract) (raw : Value) :
    Hinges IsReadingFault IsFlaw (IsAggregation raw) (readAggregation contract raw) := by
  apply Value.hinges_entries_bind .wrongType
  rintro entries rfl
  split
  · exact hinges_givenKind _
  next kind found =>
    apply Hinges.congr _ ((hasFields_of_kind found).trans hasFields_cons).symm
    refine (hinges_displayed entries "function").bind fun given _ => ?_
    dsimp only
    split
    · exact hinges_flaw ..
    · split
      · have usual : (Value.text "metric_value").IsWritable := trivial
        exact hinges_flawOf _ fun shape =>
          (isWritable_getD usual).mpr (hasFields_cons.mp shape).1
      next named =>
        -- The keywords are read before the name of the output.
        have shape : ListedUnder "keywords" Value.IsWritable entries ∧
            WritableUnder "output" entries ↔
            HasFields ["column", "output"] "keywords" Value.IsWritable entries := by
          rw [hasFields_cons, hasFields_cons, hasFields_nil,
            and_iff_right (writableUnder_of_summarised named), and_comm]
        apply Hinges.congr _ shape
        exact (hinges_phrases ..).bind fun _ _ =>
          (hinges_identifier ..).bind_true fun _ _ => .ok trivial _

theorem hinges_readMetric (raw : Value) :
    Hinges IsReadingFault IsFlaw (IsMetric raw) (readMetric raw) := by
  apply Value.hinges_entries_bind .wrongType
  intro entries _
  apply Hinges.congr _ hasFields_cons.symm
  refine (hinges_displayed entries "keyword").bind fun given _ => ?_
  dsimp only
  split
  · exact hinges_flaw ..
  · apply Hinges.congr _ (Value.yields_presentOr.trans hasFields_nil.symm)
    apply Value.hinges_elements_bind .wrongType
    intro names
    split
    · exact hinges_flaw ..
    · exact .ok (fun _ _ => trivial) _

theorem hinges_readComparison (raw : Value) :
    Hinges IsReadingFault IsFlaw (IsComparison raw) (readComparison raw) := by
  apply Value.hinges_entries_bind .wrongType
  intro entries _
  split
  · exact hinges_givenKind _
  next kind found =>
    apply Hinges.congr _ ((hasFields_of_kind found).trans hasFields_cons).symm
    refine (hinges_displayed entries "direction").bind fun given _ => ?_
    dsimp only
    split
    · exact hinges_flaw ..
    · exact .congr ((hinges_phrases ..).bind_true fun _ _ => .ok trivial _) hasFields_nil.symm

/-! ## The schema -/

/-- A mapping whose values under some keys can be written. -/
def IsTable (keys : List Text) (raw : Value) : Prop :=
  raw.IsMapping fun entries => ∀ key ∈ keys, WritableUnder key entries

/-- The keys of a fact table, in the order in which they are read. -/
def factKeys : List Text :=
  ["table", "alias", "department_key", "metric_name", "metric_value", "metric_date",
    "change_percent"]

/-- The keys of a dimension table, in the order in which they are read. -/
def dimensionKeys : List Text :=
  ["table", "alias", "key", "name", "code"]

theorem hinges_readFact (raw : Value) :
    Hinges IsReadingFault IsFlaw (IsTable factKeys raw) (readFact raw) := by
  cases raw with
  | mapping entries =>
      have column (key : Text) := hinges_identifier entries key "schema.fact"
      apply Hinges.congr _ Value.isMapping_mapping.symm
      simp only [factKeys, List.forall_mem_cons]
      exact (column _).bind fun _ _ => (column _).bind fun _ _ =>
        (column _).bind fun _ _ => (column _).bind fun _ _ =>
          (column _).bind fun _ _ => (column _).bind fun _ _ =>
            (column _).bind fun _ _ => .ok (List.forall_mem_nil _) _
  | _ => exact .error_of_not .wrongType (by rintro ⟨_, ⟨⟩, -⟩)

theorem hinges_readDimension (raw : Value) :
    Hinges IsReadingFault IsFlaw (IsTable dimensionKeys raw) (readDimension raw) := by
  cases raw with
  | mapping entries =>
      have column (key : Text) := hinges_identifier entries key "schema.dimension"
      apply Hinges.congr _ Value.isMapping_mapping.symm
      simp only [dimensionKeys, List.forall_mem_cons]
      exact (column _).bind fun _ _ => (column _).bind fun _ _ =>
        (column _).bind fun _ _ => (column _).bind fun _ _ =>
          (column _).bind fun _ _ => .ok (List.forall_mem_nil _) _
  | _ => exact .error_of_not .wrongType (by rintro ⟨_, ⟨⟩, -⟩)

theorem hinges_names (raw : Value) (table : Text) :
    Hinges IsReadingFault IsFlaw (raw.elements?.isSome = true) (names raw table) := by
  cases raw with
  | mapping entries => exact .ok rfl _
  | list items => exact .ok rfl _
  | text content => exact .ok rfl _
  | _ => exact .error_of_not .wrongType (by simp [Value.elements?])

/-- The value names both tables. -/
def NamesTables (raw : Value) : Prop :=
  names raw "fact" = .ok true ∧ names raw "dimension" = .ok true

/-- A schema section that is not absent can be searched for the tables, and if it names them it
is a mapping to two tables. -/
def IsSchema (raw : Value) : Prop :=
  raw.isPresent = true → raw.elements?.isSome = true ∧
    (NamesTables raw → raw.IsMapping fun entries =>
      IsTable factKeys ((Value.lookup? "fact" entries).getD .null) ∧
        IsTable dimensionKeys ((Value.lookup? "dimension" entries).getD .null))

theorem hinges_readSchema (raw : Value) :
    Hinges IsReadingFault IsFlaw (IsSchema raw) (readSchema raw) := by
  rw [IsSchema, readSchema]
  by_cases present : raw.isPresent = true
  · simp only [present, Bool.not_true, Bool.false_eq_true, if_false, true_imp_iff]
    apply (hinges_names raw "fact").bind
    intro hasFact factNamed
    cases hasFact with
    | false => exact hinges_flaw ..
    | true =>
        -- The value has been searched once, so that it can be searched is settled.
        have searched : Hinges IsReadingFault IsFlaw True (names raw "dimension") :=
          (hinges_names raw "dimension").congr
            (iff_true_intro ((hinges_names raw "fact").shape_of_ok true factNamed))
        refine searched.bind_of_true fun hasDimension dimensionNamed => ?_
        cases hasDimension with
        | false => exact hinges_flaw ..
        | true =>
            have named : NamesTables raw := ⟨factNamed, dimensionNamed⟩
            refine .congr (Value.hinges_entries_bind .wrongType fun entries _ => ?_)
              (imp_iff_right named).symm
            refine (hinges_readFact _).bind fun fact _ => ?_
            refine (hinges_readDimension _).bind_true fun dimension _ => ?_
            split
            · exact hinges_flaw ..
            · exact .ok trivial _
  · simp only [present]
    exact hinges_flaw ..

/-! ## The limits -/

/-- The causes for which a text is no pattern and is not reported as a flaw: numbers that are out
of reach, and classes that exclude each other. -/
inductive IsUntold : Pattern.Cause → Prop where
  | boundTooLong (digits : Nat) : IsUntold (.boundTooLong digits)
  | boundTooLarge : IsUntold .boundTooLarge
  | characterTooLarge : IsUntold .characterTooLarge
  | incompatibleClasses : IsUntold .incompatibleClasses

/-- A text that is a pattern, or is none for a cause that can be told. -/
def IsReadablePattern (raw : Value) : Prop :=
  ∃ source, raw = .text source ∧ ∀ error, Pattern.parse source = .error error →
    ¬IsUntold error.cause

/-- What is given under a key denotes a number. -/
def NumberUnder (key : Text) (entries : List (Value × Value)) : Prop :=
  ∀ value, Value.lookup? key entries = some value → ∃ number, value.toInteger = .ok number

/-- The numbers under the two keys can be written if they are no limits. -/
def LimitsTold (entries : List (Value × Value)) : Prop :=
  ∀ default maximum,
    ((Value.lookup? "default_ranked_limit" entries).getD (.int 10)).toInteger = .ok default →
    ((Value.lookup? "max_limit" entries).getD (.int 1000)).toInteger = .ok maximum →
    default < 0 ∨ maximum < 1 ∨ maximum < default →
    (Value.int default).IsWritable ∧ (Value.int maximum).IsWritable

/-- A limits section that is not absent is a mapping with patterns and two numbers, which may all
be missing. -/
def IsLimits (raw : Value) : Prop :=
  raw.isPresent = true → raw.IsMapping fun entries =>
    ListedUnder "patterns" IsReadablePattern entries ∧
      NumberUnder "default_ranked_limit" entries ∧ NumberUnder "max_limit" entries ∧
      LimitsTold entries

theorem hinges_readPattern (raw : Value) :
    Hinges IsReadingFault IsFlaw (IsReadablePattern raw) (readPattern raw) := by
  cases raw with
  | text source =>
      rw [readPattern]
      cases parsed : Pattern.parse source with
      | error error =>
          have untold (known : IsUntold error.cause) : ¬IsReadablePattern (.text source) := by
            rintro ⟨_, ⟨⟩, readable⟩
            exact readable error parsed known
          simp only [patternFault]
          split
          next digits cause =>
            exact .error_of_not (.integerTooLong digits) (untold (cause ▸ .boundTooLong digits))
          next cause =>
            exact .error_of_not .oversizedRepetition (untold (cause ▸ .boundTooLarge))
          next cause =>
            exact .error_of_not .oversizedCharacter (untold (cause ▸ .characterTooLarge))
          next cause =>
            exact .error_of_not .incompatibleOptions (untold (cause ▸ .incompatibleClasses))
          next => exact hinges_flaw ..
      | ok pattern =>
          dsimp only
          split
          · exact hinges_flaw ..
          · refine .ok ⟨source, rfl, ?_⟩ _
            intro error failed
            rw [parsed] at failed
            cases failed
  | _ => exact .error_of_not .wrongType (by rintro ⟨_, ⟨⟩, -⟩)

theorem isReadingFault_of_toInteger {raw : Value} {fault : Fault}
    (failed : raw.toInteger = .error fault) : IsReadingFault fault := by
  cases raw with
  | float number =>
      simp only [Value.toInteger] at failed
      split at failed
      · cases failed
        exact .undefinedNumber
      · cases failed
        exact .infiniteNumber
      · cases failed
  | text content =>
      simp only [Value.toInteger] at failed
      cases read : Decimal.readInt content with
      | error cause =>
          rw [read] at failed
          cases failed
          cases cause with
          | malformed => exact .malformedInteger content
          | tooLong digits => exact .integerTooLong digits
      | ok number =>
          rw [read] at failed
          cases failed
  | _ =>
      cases failed
      try exact .wrongType

theorem hinges_toInteger (raw : Value) :
    Hinges IsReadingFault IsFlaw (∃ number, raw.toInteger = .ok number) raw.toInteger := by
  cases found : raw.toInteger with
  | error fault => exact .error_of_not (isReadingFault_of_toInteger found) (by simp)
  | ok number => exact .ok ⟨number, rfl⟩ number

theorem hinges_numberUnder (key : Text) (entries : List (Value × Value)) (default : Int) :
    Hinges IsReadingFault IsFlaw (NumberUnder key entries)
      ((Value.lookup? key entries).getD (.int default)).toInteger := by
  rw [NumberUnder]
  cases Value.lookup? key entries with
  | none => exact .ok (by simp) default
  | some value => exact (hinges_toInteger value).congr (by simp)

/-- Two numbers are told to be no limits if they can be written. -/
theorem hinges_limits {rules : LimitRules} (default maximum : Int) :
    Hinges IsReadingFault IsFlaw
      (default < 0 ∨ maximum < 1 ∨ maximum < default →
        (Value.int default).IsWritable ∧ (Value.int maximum).IsWritable)
      (if default < 0 ∨ maximum < 1 ∨ maximum < default then do
        let default ← (Value.int default).write
        let maximum ← (Value.int maximum).write
        throw (.vocabulary (.badLimits default maximum))
      else return rules) := by
  by_cases bad : default < 0 ∨ maximum < 1 ∨ maximum < default
  · rw [if_pos bad]
    refine .congr ?_ (imp_iff_right bad).symm
    exact (Value.hinges_write .unwritableInteger _).bind fun _ _ =>
      (Value.hinges_write .unwritableInteger _).bind_true fun _ _ => hinges_flaw ..
  · rw [if_neg bad]
    exact .ok (fun shown => absurd shown bad) rules

theorem hinges_readLimits (raw : Value) :
    Hinges IsReadingFault IsFlaw (IsLimits raw) (readLimits raw) := by
  have given : (if raw.isPresent = true then raw else .mapping []).IsMapping (fun entries =>
      ListedUnder "patterns" IsReadablePattern entries ∧
        NumberUnder "default_ranked_limit" entries ∧ NumberUnder "max_limit" entries ∧
        LimitsTold entries) ↔ IsLimits raw := by
    rw [IsLimits]
    by_cases present : raw.isPresent = true
    · simp [present]
    · simp [present, IsMapping, ListedUnder, NumberUnder, LimitsTold, Value.lookup?,
        Value.toInteger]
  apply Hinges.congr _ given
  apply Value.hinges_entries_bind .wrongType
  intro entries _
  refine .congr (Value.hinges_mapM_bind .wrongType hinges_readPattern (fun patterns => ?_) _)
    (and_congr_left' Value.yields_presentOr)
  refine (hinges_numberUnder "default_ranked_limit" entries 10).bind fun default defaultRead => ?_
  refine (hinges_numberUnder "max_limit" entries 1000).bind fun maximum maximumRead => ?_
  refine (hinges_limits default maximum).congr ⟨fun told => ?_, fun told =>
    told default maximum defaultRead maximumRead⟩
  intro otherDefault otherMaximum otherDefaultRead otherMaximumRead
  cases defaultRead.symm.trans otherDefaultRead
  cases maximumRead.symm.trans otherMaximumRead
  exact told

/-! ## Whole vocabularies -/

theorem hinges_requireDistinct (tags : List Text) (place : Text) :
    Hinges IsReadingFault IsFlaw True (requireDistinct tags place) := by
  rw [requireDistinct]
  split
  · exact .ok trivial _
  · exact hinges_flaw ..

theorem hinges_section_bind {α β : Type} {readRule : Value → Except Fault α}
    {each : Value → Prop}
    (rule : ∀ raw, Hinges IsReadingFault IsFlaw (each raw) (readRule raw))
    (entries : List (Value × Value)) (name : Text) {rest : Prop} {next : List α → Except Fault β}
    (later : ∀ rules, Hinges IsReadingFault IsFlaw rest (next rules)) :
    Hinges IsReadingFault IsFlaw (SectionUnder name each entries ∧ rest)
      (sectionItems entries name >>= fun items => items.mapM readRule >>= next) :=
  (Value.hinges_mapM_bind .wrongType rule later _).congr (and_congr_left' Value.yields_getD)

/-- The entries of a vocabulary, each section of the shape in which it is read. -/
structure HasSections (entries : List (Value × Value)) : Prop where
  schema : IsSchema ((Value.lookup? "schema" entries).getD .null)
  departments : SectionUnder "departments" IsDepartment entries
  dateRanges : SectionUnder "date_ranges" IsDateRange entries
  aggregations : SectionUnder "aggregations" IsAggregation entries
  metrics : SectionUnder "metrics" IsMetric entries
  comparisons : SectionUnder "comparisons" IsComparison entries
  limits : IsLimits ((Value.lookup? "limits" entries).getD .null)

theorem hinges_read_mapping (entries : List (Value × Value)) :
    Hinges IsReadingFault IsFlaw (HasSections entries) (read (.mapping entries)) := by
  have sections : (IsSchema ((Value.lookup? "schema" entries).getD .null) ∧
      SectionUnder "departments" IsDepartment entries ∧
      SectionUnder "date_ranges" IsDateRange entries ∧
      SectionUnder "aggregations" IsAggregation entries ∧
      SectionUnder "metrics" IsMetric entries ∧
      SectionUnder "comparisons" IsComparison entries ∧
      IsLimits ((Value.lookup? "limits" entries).getD .null)) ↔ HasSections entries :=
    ⟨fun ⟨schema, departments, dates, aggregations, metrics, comparisons, limits⟩ =>
      ⟨schema, departments, dates, aggregations, metrics, comparisons, limits⟩,
    fun has => ⟨has.schema, has.departments, has.dateRanges, has.aggregations, has.metrics,
      has.comparisons, has.limits⟩⟩
  apply Hinges.congr _ sections
  refine (hinges_readSchema _).bind fun schema _ => ?_
  refine hinges_section_bind hinges_readDepartment entries _ fun departments => ?_
  refine hinges_section_bind (hinges_readDateRange schema) entries _ fun dateRanges => ?_
  refine hinges_section_bind (hinges_readAggregation schema) entries _ fun aggregations => ?_
  refine hinges_section_bind hinges_readMetric entries _ fun metrics => ?_
  refine hinges_section_bind hinges_readComparison entries _ fun comparisons => ?_
  refine (hinges_requireDistinct ..).bind_of_true fun _ _ => ?_
  refine (hinges_requireDistinct ..).bind_of_true fun _ _ => ?_
  refine (hinges_requireDistinct ..).bind_of_true fun _ _ => ?_
  refine (hinges_requireDistinct ..).bind_of_true fun _ _ => ?_
  exact (hinges_readLimits _).bind_true fun _ _ => .ok trivial _

/-- A value of the shape in which vocabularies are read; what is no mapping is told to be none. -/
def IsShaped (raw : Value) : Prop :=
  ∀ entries, raw = .mapping entries → HasSections entries

/-- Of a value of the right shape everything that is wrong with it as a vocabulary is told, and
no other value is accepted.  In any shape, the fault that is met is one of a few. -/
theorem flaw_of_isShaped (raw : Value) :
    (IsShaped raw → ∀ fault, read raw = .error fault → IsFlaw fault) ∧
      (∀ vocabulary, read raw = .ok vocabulary → IsShaped raw) ∧
      ∀ fault, read raw = .error fault → IsReadingFault fault := by
  have hinges : Hinges IsReadingFault IsFlaw (IsShaped raw) (read raw) := by
    cases raw with
    | mapping entries => exact (hinges_read_mapping entries).congr (by simp [IsShaped])
    | _ => exact hinges_flaw ..
  exact ⟨hinges.expected_of_shape, hinges.shape_of_ok, hinges.possible_of_error⟩

theorem flaw_sampleSources :
    (IsShaped (.mapping []) ∧ read (.mapping []) = .error (.vocabulary .schemaMissing) ∧
      IsFlaw (.vocabulary .schemaMissing)) ∧
    (IsShaped sampleSource ∧ read sampleSource = .ok sampleVocabulary) := by
  have shaped : IsShaped (.mapping []) := by
    rintro entries ⟨⟩
    constructor
    case schema => exact fun present => absurd present (by decide)
    case limits => exact fun present => absurd present (by decide)
    all_goals
      intro value found
      cases found
  have refused : read (.mapping []) = .error (.vocabulary .schemaMissing) := by
    with_unfolding_all rfl
  exact ⟨⟨shaped, refused, (flaw_of_isShaped (.mapping [])).1 shaped _ refused⟩,
    (flaw_of_isShaped sampleSource).2.1 _ read_sampleSource, read_sampleSource⟩

/-- The schema of the small vocabulary with one more section. -/
def sourceWith (key : Text) (value : Value) : Value := .record
  [("schema", ((sampleSource.entries.toOption).bind (Value.lookup? "schema")).getD .null),
   (key, value)]

set_option maxRecDepth 20000 in
/-- A number for a schema, nothing for a list of departments, and a word for a number. -/
theorem untold_sources :
    (read (.record [("schema", .int 5)]) = .error .wrongType ∧ ¬IsFlaw .wrongType) ∧
    read (sourceWith "departments" .null) = .error .wrongType ∧
    (read (sourceWith "limits" (.record [("max_limit", .text "many")])) =
        .error (.malformedInteger 10 "many") ∧
      ¬IsFlaw (.malformedInteger 10 "many")) := by
  refine ⟨⟨?_, ?_⟩, ?_, ?_, ?_⟩
  · with_unfolding_all rfl
  · rintro ⟨flaw, ⟨⟩⟩
  · with_unfolding_all rfl
  · with_unfolding_all rfl
  · rintro ⟨flaw, ⟨⟩⟩

end Inquiry.Vocabulary
