import Inquiry.Extraction
import Inquiry.Proofs.Text.Stripped
import Inquiry.Proofs.Value.Shape
import Inquiry.Proofs.Vocabulary.WellFormed

/-!
# What was written for a rule

A rule is meant to match the questions that contain one of the entries written for it, and to
write a condition and ask for metrics as they were given.  The reader takes whatever can be
iterated over for a list, and whatever has a text for a text.  So a text in the place of a list
falls apart into its characters, and a key that was left empty stands for the word None.

These are the only ways in which a rule comes to differ from what was written for it.
-/

namespace Inquiry

/-! ## Entries -/

namespace Value

/-- The entries of what was written in the place of a list: the items of a list, the keys of a
mapping, and anything else as a whole. -/
def written : Value → List Value
  | list items => items
  | mapping entries => entries.map (·.1)
  | null => []
  | other => [other]

/-- What was written as one entry, if anything was. -/
def single : Value → List Value
  | null => []
  | other => [other]

/-- A question contains the entry, in small letters and without blanks at its ends. -/
def StandsIn (question : Text) (entry : Value) : Prop :=
  ∃ spelled, entry.written? = some spelled ∧ Text.strip spelled ≠ [] ∧
    Text.occurs (Text.strip (Text.lower spelled)) (Text.lower question) = true

/-- A text that stands in the place of a list has a single character. -/
def Undivided (trim : Text → Text) : Value → Prop
  | text content => (trim content).length ≤ 1
  | _ => True

/-- What is given under a key is no text that falls apart. -/
def UndividedUnder (trim : Text → Text) (key : Text) (fields : List (Value × Value)) : Prop :=
  ∀ value, lookup? key fields = some value → value.Undivided trim

/-- The key has not been left empty. -/
def GivenUnder (key : Text) (fields : List (Value × Value)) : Prop :=
  ∃ value, lookup? key fields = some value ∧ value ≠ null

/-- The entries that were written under a key. -/
def writtenUnder (key : Text) (fields : List (Value × Value)) : List Value :=
  ((lookup? key fields).getD null).written

theorem eq_mapping_of_entries {raw : Value} {fields : List (Value × Value)}
    (given : raw.entries = .ok fields) : raw = .mapping fields := by
  cases raw with
  | mapping entries => rw [Except.ok.inj given]
  | _ => cases given

theorem elements?_eq_some {raw : Value} {items : List Value}
    (listed : raw.elements = .ok items) : raw.elements? = some items := by
  rw [elements] at listed
  split at listed
  next found => rw [found, Except.ok.inj listed]
  next => cases listed

theorem standsIn_text {content question : Text} : (text content).StandsIn question ↔
    Text.strip content ≠ [] ∧
      Text.occurs (Text.strip (Text.lower content)) (Text.lower question) = true := by
  simp [StandsIn, written?]

end Value

namespace Vocabulary

open Value (IsMapping SectionUnder StandsIn Undivided UndividedUnder GivenUnder writtenUnder)

/-- What matches a question contains one of the entries that were written. -/
def MatchesWritten (matched : Text → Bool) (entries : List Value) : Prop :=
  ∀ question, matched (Text.lower question) = true → ∃ entry ∈ entries, entry.StandsIn question

/-! ## Single characters -/

/-- The only character of a text says what the text says. -/
theorem standsIn_of_character {content question : Text} {c : Char} (member : c ∈ content)
    (short : (Text.strip content).length ≤ 1) (stands : (Value.text [c]).StandsIn question) :
    (Value.text content).StandsIn question := by
  obtain ⟨spoken, within⟩ := Value.standsIn_text.mp stands
  have inked := Text.inked_of_strip_singleton spoken
  have only : Text.strip content = [c] := by
    have kept := Text.mem_strip member inked
    obtain ⟨d, whole⟩ := List.length_eq_one_iff.mp
      (Nat.le_antisymm short (List.length_pos_of_mem kept))
    rw [whole] at kept ⊢
    rw [List.mem_singleton.mp kept]
  have same : Text.strip (Text.lower content) = Text.strip (Text.lower [c]) := by
    rw [Text.strip_lower, Text.strip_lower, only, Text.strip_singleton inked]
  refine Value.standsIn_text.mpr ⟨?_, ?_⟩
  · rw [only]
    exact List.cons_ne_nil c []
  · rw [same]
    exact within

/-- The first character of a longer text stands in a question that the text does not stand in. -/
theorem exists_divided {content : Text} (long : 1 < (Text.strip content).length) :
    ∃ c ∈ content, (Value.text [c]).StandsIn [c] ∧ ¬(Value.text content).StandsIn [c] := by
  obtain ⟨c, rest, whole⟩ := List.exists_cons_of_length_pos (Nat.lt_of_succ_lt long)
  have more : rest ≠ [] := by
    rintro rfl
    rw [whole] at long
    exact absurd long (by simp)
  have inked : Text.isBlank c = false := by
    have begins := Text.head?_strip content
    simpa [whole] using begins
  refine ⟨c, (Text.infix_of_strip content).subset (by simp [whole]),
    Value.standsIn_text.mpr ⟨?_, ?_⟩, ?_⟩
  · rw [Text.strip_singleton inked]
    exact List.cons_ne_nil c []
  · exact Text.occurs_iff.mpr (Text.infix_of_strip (Text.lower [c]))
  · intro stands
    obtain ⟨-, within⟩ := Value.standsIn_text.mp stands
    rw [Text.strip_lower, whole] at within
    have longer := (Text.occurs_iff.mp within).length_le
    have shorter : (Text.lower [c]).length < (Text.lower (c :: rest)).length :=
      Text.length_lower_singleton_lt more
    omega

/-! ## Phrases -/

variable {fields : List (Value × Value)} {key place : Text}

theorem written?_of_displayed {value : Value} {spelled : Text}
    (looked : Value.lookup? key fields = some value)
    (shown : displayed fields key = .ok spelled) : value.written? = some spelled := by
  rw [displayed, looked] at shown
  exact Value.write_eq_ok_iff.mp shown

/-- What iteration over a field yields, if it is not passed over. -/
theorem exists_elements_of_presentOr {items : List Value} (nonempty : items ≠ [])
    (listed : (presentOr (.list []) (Value.lookup? key fields)).elements = .ok items) :
    ∃ value, Value.lookup? key fields = some value ∧ value.elements? = some items := by
  have yields := Value.elements?_eq_some listed
  have absent : (Value.list []).elements? ≠ some items := fun same =>
    nonempty (Option.some.inj same).symm
  cases found : Value.lookup? key fields with
  | none =>
      rw [found] at yields
      exact absurd yields absent
  | some value =>
      rw [found, presentOr] at yields
      split at yields
      · exact ⟨value, rfl, yields⟩
      · exact absurd yields absent

/-- The phrases of an entry come from what iteration over its field yields. -/
theorem exists_items_of_phrases {found : List Text}
    (success : phrases fields key place = .ok found) :
    ∃ value items, Value.lookup? key fields = some value ∧ value.elements? = some items ∧
      ∀ question, mentions found (Text.lower question) = true ↔
        ∃ item ∈ items, item.StandsIn question := by
  obtain ⟨items, listed, success⟩ := Outcome.bind_eq_ok.mp success
  obtain ⟨spelled, written, success⟩ := Outcome.bind_eq_ok.mp success
  dsimp only at success
  split at success
  · cases success
  next filled =>
    cases success
    have nonempty : items ≠ [] := by
      rintro rfl
      cases written
      exact filled rfl
    obtain ⟨value, looked, yields⟩ := exists_elements_of_presentOr nonempty listed
    refine ⟨value, items, looked, yields, fun question => ?_⟩
    rw [mentions, List.any_eq_true]
    constructor
    · rintro ⟨phrase, member, within⟩
      obtain ⟨given, kept, rfl⟩ := List.mem_map.mp member
      obtain ⟨listed, spoken⟩ := List.mem_filter.mp kept
      obtain ⟨item, among, shown⟩ := Outcome.exists_of_mem_mapM written listed
      exact ⟨item, among, given, Value.write_eq_ok_iff.mp shown, by simpa using spoken, within⟩
    · rintro ⟨item, among, given, shown, spoken, within⟩
      obtain ⟨other, listed, again⟩ := Outcome.exists_mem_of_mapM written among
      obtain rfl : given = other :=
        Except.ok.inj ((Value.write_eq_ok_iff.mpr shown).symm.trans again)
      have kept : given ∈ spelled.filter fun phrase => !(Text.strip phrase).isEmpty :=
        List.mem_filter.mpr ⟨listed, by simpa using spoken⟩
      exact ⟨_, List.mem_map_of_mem kept, within⟩

/-- Phrases match what was written unless they are the characters of a text. -/
theorem matchesWritten_phrases_iff {found : List Text}
    (success : phrases fields key place = .ok found) :
    MatchesWritten (mentions found) (writtenUnder key fields) ↔
      UndividedUnder Text.strip key fields := by
  obtain ⟨value, items, looked, yields, matched⟩ := exists_items_of_phrases success
  have field : UndividedUnder Text.strip key fields ↔ value.Undivided Text.strip := by
    simp [UndividedUnder, looked]
  have whole : value.written = items →
      (MatchesWritten (mentions found) value.written ↔ True) := by
    intro same
    exact iff_true_intro fun question holds => same ▸ (matched question).mp holds
  rw [field, writtenUnder, looked, Option.getD_some]
  cases value with
  | list entries => exact whole (Option.some.inj yields)
  | mapping entries => exact whole (Option.some.inj yields)
  | text content =>
      obtain rfl : content.map (fun c => Value.text [c]) = items := Option.some.inj yields
      constructor
      -- The first character, asked for alone, is found although the whole text is not there.
      · intro literal
        by_contra long
        obtain ⟨c, member, stands, divided⟩ := exists_divided (Nat.lt_of_not_le long)
        obtain ⟨entry, listed, present⟩ :=
          literal [c] ((matched [c]).mpr ⟨_, List.mem_map_of_mem member, stands⟩)
        rw [List.mem_singleton.mp listed] at present
        exact divided present
      · intro short question holds
        obtain ⟨_, among, stands⟩ := (matched question).mp holds
        obtain ⟨c, member, rfl⟩ := List.mem_map.mp among
        exact ⟨_, List.mem_singleton_self _, standsIn_of_character member short stands⟩
  | _ => cases yields

/-! ## Rules -/

/-- A date window matches by its phrases and has the condition that was written for it. -/
structure LiteralDateRange (contract : SchemaContract) (fields : List (Value × Value))
    (rule : DateRangeRule) : Prop where
  matched : MatchesWritten (mentions rule.phrases) (writtenUnder "phrases" fields)
  predicate : ∃ given spelled, Value.lookup? "predicate" fields = some given ∧ given ≠ .null ∧
    given.written? = some spelled ∧ rule.predicate = Text.replace dateMark
      (contract.fact.column contract.fact.metricDate) (Text.strip spelled)

/-- A metric keyword matches by what was written for it and asks for the metrics listed. -/
structure LiteralMetric (fields : List (Value × Value)) (rule : MetricRule) : Prop where
  matched : MatchesWritten (Text.occurs rule.keyword)
    ((Value.lookup? "keyword" fields).getD .null).single
  names : rule.names = writtenUnder "names" fields

theorem phrases_of_readDepartment {raw : Value} {rule : DepartmentRule}
    (success : readDepartment raw = .ok rule) :
    ∃ fields, raw = .mapping fields ∧
      phrases fields "synonyms" "departments" = .ok rule.synonyms := by
  obtain ⟨fields, given, success⟩ := Outcome.bind_eq_ok.mp success
  obtain ⟨code, -, success⟩ := Outcome.bind_eq_ok.mp success
  dsimp only at success
  split at success
  · cases success
  · obtain ⟨synonyms, synonymsRead, success⟩ := Outcome.bind_eq_ok.mp success
    obtain rfl := Outcome.pure_eq_ok.mp success
    exact ⟨fields, Value.eq_mapping_of_entries given, synonymsRead⟩

theorem phrases_of_readAggregation {contract : SchemaContract} {raw : Value}
    {rule : AggregationRule} (success : readAggregation contract raw = .ok rule) :
    ∃ fields, raw = .mapping fields ∧
      phrases fields "keywords" "aggregations" = .ok rule.keywords := by
  obtain ⟨fields, given, success⟩ := Outcome.bind_eq_ok.mp success
  split at success
  · cases success
  · obtain ⟨function, -, success⟩ := Outcome.bind_eq_ok.mp success
    dsimp only at success
    split at success
    · cases success
    · split at success
      · cases success
      · obtain ⟨keywords, keywordsRead, success⟩ := Outcome.bind_eq_ok.mp success
        obtain ⟨output, -, success⟩ := Outcome.bind_eq_ok.mp success
        obtain rfl := Outcome.pure_eq_ok.mp success
        exact ⟨fields, Value.eq_mapping_of_entries given, keywordsRead⟩

theorem phrases_of_readComparison {raw : Value} {rule : ComparisonRule}
    (success : readComparison raw = .ok rule) :
    ∃ fields, raw = .mapping fields ∧
      phrases fields "keywords" "comparisons" = .ok rule.keywords := by
  obtain ⟨fields, given, success⟩ := Outcome.bind_eq_ok.mp success
  split at success
  · cases success
  · obtain ⟨direction, -, success⟩ := Outcome.bind_eq_ok.mp success
    dsimp only at success
    split at success
    · cases success
    · obtain ⟨keywords, keywordsRead, success⟩ := Outcome.bind_eq_ok.mp success
      obtain rfl := Outcome.pure_eq_ok.mp success
      exact ⟨fields, Value.eq_mapping_of_entries given, keywordsRead⟩

/-- A date window is literal unless its phrases fall apart or its condition was left empty. -/
theorem literalDateRange_of_read {contract : SchemaContract} {raw : Value} {rule : DateRangeRule}
    (success : readDateRange contract raw = .ok rule) :
    ∃ fields, raw = .mapping fields ∧ (LiteralDateRange contract fields rule ↔
      UndividedUnder Text.strip "phrases" fields ∧ GivenUnder "predicate" fields) := by
  obtain ⟨fields, given, success⟩ := Outcome.bind_eq_ok.mp success
  refine ⟨fields, Value.eq_mapping_of_entries given, ?_⟩
  split at success
  · cases success
  · obtain ⟨spelled, shown, success⟩ := Outcome.bind_eq_ok.mp success
    dsimp only at success
    split at success
    · cases success
    · obtain ⟨phrases, phrasesRead, success⟩ := Outcome.bind_eq_ok.mp success
      obtain rfl := Outcome.pure_eq_ok.mp success
      have matched := matchesWritten_phrases_iff phrasesRead
      constructor
      · rintro ⟨literal, value, _, looked, filled, -⟩
        exact ⟨matched.mp literal, value, looked, filled⟩
      · rintro ⟨undivided, value, looked, filled⟩
        exact ⟨matched.mpr undivided, value, spelled, looked, filled,
          written?_of_displayed looked shown, rfl⟩

/-- Names are those that were written unless they are the characters of a text. -/
theorem names_eq_written_iff {names : List Value} (nonempty : names ≠ [])
    (listed : (presentOr (.list []) (Value.lookup? key fields)).elements = .ok names) :
    names = writtenUnder key fields ↔ UndividedUnder id key fields := by
  obtain ⟨value, looked, yields⟩ := exists_elements_of_presentOr nonempty listed
  have field : UndividedUnder id key fields ↔ value.Undivided id := by
    simp [UndividedUnder, looked]
  rw [field, writtenUnder, looked, Option.getD_some]
  cases value with
  | list entries => exact iff_of_true (Option.some.inj yields).symm trivial
  | mapping entries => exact iff_of_true (Option.some.inj yields).symm trivial
  | text content =>
      obtain rfl : content.map (fun c => Value.text [c]) = names := Option.some.inj yields
      rw [ne_eq, List.map_eq_nil_iff] at nonempty
      constructor
      · intro same
        have lengths := congrArg List.length same
        rw [List.length_map] at lengths
        exact lengths.le
      · intro short
        obtain ⟨c, rfl⟩ := List.length_eq_one_iff.mp
          (Nat.le_antisymm short (List.length_pos_of_ne_nil nonempty))
        rfl
  | _ => cases yields

/-- A keyword is what was written for it unless it was left empty. -/
theorem matchesWritten_keyword_iff {spelled : Text} (shown : displayed fields key = .ok spelled)
    (spoken : Text.strip (Text.lower spelled) ≠ []) :
    MatchesWritten (Text.occurs (Text.strip (Text.lower spelled)))
        ((Value.lookup? key fields).getD .null).single ↔ GivenUnder key fields := by
  have itself : Text.occurs (Text.strip (Text.lower spelled)) (Text.lower spelled) = true :=
    Text.occurs_iff.mpr (Text.infix_of_strip _)
  constructor
  -- What was left empty is asked for with the word that it displays as.
  · intro literal
    obtain ⟨entry, listed, -⟩ := literal _ itself
    cases looked : Value.lookup? key fields with
    | none =>
        rw [looked] at listed
        cases listed
    | some value =>
        refine ⟨value, looked, ?_⟩
        rintro rfl
        rw [looked] at listed
        cases listed
  · rintro ⟨value, looked, filled⟩ question within
    have whole : value.single = [value] := by
      cases value with
      | null => exact absurd rfl filled
      | _ => rfl
    have inked : Text.strip spelled ≠ [] := by
      intro blank
      apply spoken
      rw [Text.strip_lower, blank]
      rfl
    exact ⟨value, by simp [looked, whole], spelled, written?_of_displayed looked shown, inked,
      within⟩

/-- A metric keyword is literal unless it was left empty or its names fall apart. -/
theorem literalMetric_of_read {raw : Value} {rule : MetricRule}
    (success : readMetric raw = .ok rule) :
    ∃ fields, raw = .mapping fields ∧ (LiteralMetric fields rule ↔
      GivenUnder "keyword" fields ∧ UndividedUnder id "names" fields) := by
  obtain ⟨fields, given, success⟩ := Outcome.bind_eq_ok.mp success
  obtain ⟨spelled, shown, success⟩ := Outcome.bind_eq_ok.mp success
  refine ⟨fields, Value.eq_mapping_of_entries given, ?_⟩
  dsimp only at success
  split at success
  · cases success
  next spoken =>
    obtain ⟨names, namesRead, success⟩ := Outcome.bind_eq_ok.mp success
    split at success
    · cases success
    next named =>
      obtain rfl := Outcome.pure_eq_ok.mp success
      have listed := names_eq_written_iff (by simpa using named) namesRead
      have keyword := matchesWritten_keyword_iff shown (by simpa using spoken)
      constructor
      · rintro ⟨matched, same⟩
        exact ⟨keyword.mp matched, listed.mp same⟩
      · rintro ⟨filled, undivided⟩
        exact ⟨keyword.mpr filled, listed.mpr undivided⟩

/-! ## Sections -/

/-- The rules of a section are those of its entries, one by one, and so related to them. -/
def Corresponds {α : Type} (name : Text) (related : List (Value × Value) → α → Prop)
    (entries : List (Value × Value)) (rules : List α) : Prop :=
  ∃ items, sectionItems entries name = .ok items ∧
    List.Forall₂ (fun item rule => item.IsMapping fun fields => related fields rule) items rules

theorem forall₂_isMapping_iff {α : Type} {readRule : Value → Except Fault α}
    {items : List Value} {rules : List α} {related : List (Value × Value) → α → Prop}
    {good : List (Value × Value) → Prop}
    (paired : List.Forall₂ (fun item rule => readRule item = .ok rule) items rules)
    (one : ∀ item rule, readRule item = .ok rule →
      ∃ fields, item = .mapping fields ∧ (related fields rule ↔ good fields)) :
    List.Forall₂ (fun item rule => item.IsMapping fun fields => related fields rule) items rules ↔
      ∀ item ∈ items, item.IsMapping good := by
  induction paired with
  | nil => simp
  | cons ruleRead _ ih =>
      obtain ⟨fields, rfl, decided⟩ := one _ _ ruleRead
      rw [List.forall₂_cons, List.forall_mem_cons, Value.isMapping_mapping,
        Value.isMapping_mapping]
      exact and_congr decided ih

/-- What decides about one entry decides about the section. -/
theorem corresponds_iff {α : Type} {entries : List (Value × Value)} {name : Text}
    {readRule : Value → Except Fault α} {rules : List α}
    {related : List (Value × Value) → α → Prop} {good : List (Value × Value) → Prop}
    (source : ReadSection entries name readRule rules)
    (one : ∀ item rule, readRule item = .ok rule →
      ∃ fields, item = .mapping fields ∧ (related fields rule ↔ good fields)) :
    Corresponds name related entries rules ↔ SectionUnder name (IsMapping good) entries := by
  obtain ⟨items, itemsRead, rulesRead⟩ := source
  have yields := Value.elements?_eq_some itemsRead
  have pointwise := forall₂_isMapping_iff (Outcome.forall₂_of_mapM rulesRead) one
  rw [← Value.yields_getD, Corresponds]
  constructor
  · rintro ⟨_, itemsAgain, related⟩
    obtain rfl := Except.ok.inj (itemsAgain.symm.trans itemsRead)
    exact ⟨_, yields, pointwise.mp related⟩
  · rintro ⟨_, itemsAgain, holds⟩
    obtain rfl := Option.some.inj (itemsAgain.symm.trans yields)
    exact ⟨_, itemsRead, pointwise.mpr holds⟩

theorem corresponds_phrases_iff {α : Type} {entries : List (Value × Value)} {name : Text}
    {readRule : Value → Except Fault α} {rules : List α} {found : α → List Text}
    (source : ReadSection entries name readRule rules)
    (inverted : ∀ {item : Value} {rule : α}, readRule item = .ok rule →
      ∃ fields, item = .mapping fields ∧ phrases fields key place = .ok (found rule)) :
    Corresponds name (fun fields rule =>
        MatchesWritten (mentions (found rule)) (writtenUnder key fields)) entries rules ↔
      SectionUnder name (IsMapping (UndividedUnder Text.strip key)) entries := by
  refine corresponds_iff source fun item rule ruleRead => ?_
  obtain ⟨fields, mapping, phrasesRead⟩ := inverted ruleRead
  exact ⟨fields, mapping, matchesWritten_phrases_iff phrasesRead⟩

/-! ## Whole vocabularies -/

/-- Every rule matches, and says, what was written for it. -/
structure Literal (entries : List (Value × Value)) (vocabulary : Vocabulary) : Prop where
  departments : Corresponds "departments"
    (fun fields rule => MatchesWritten (mentions rule.synonyms) (writtenUnder "synonyms" fields))
    entries vocabulary.departments
  dateRanges : Corresponds "date_ranges" (LiteralDateRange vocabulary.schema) entries
    vocabulary.dateRanges
  aggregations : Corresponds "aggregations"
    (fun fields rule => MatchesWritten (mentions rule.keywords) (writtenUnder "keywords" fields))
    entries vocabulary.aggregations
  metrics : Corresponds "metrics" LiteralMetric entries vocabulary.metrics
  comparisons : Corresponds "comparisons"
    (fun fields rule => MatchesWritten (mentions rule.keywords) (writtenUnder "keywords" fields))
    entries vocabulary.comparisons

/-- Nothing falls apart where a list is expected, and no condition or keyword was left empty. -/
structure WrittenOut (entries : List (Value × Value)) : Prop where
  departments : SectionUnder "departments" (IsMapping (UndividedUnder Text.strip "synonyms"))
    entries
  dateRanges : SectionUnder "date_ranges" (IsMapping fun fields =>
    UndividedUnder Text.strip "phrases" fields ∧ GivenUnder "predicate" fields) entries
  aggregations : SectionUnder "aggregations" (IsMapping (UndividedUnder Text.strip "keywords"))
    entries
  metrics : SectionUnder "metrics" (IsMapping fun fields =>
    GivenUnder "keyword" fields ∧ UndividedUnder id "names" fields) entries
  comparisons : SectionUnder "comparisons" (IsMapping (UndividedUnder Text.strip "keywords"))
    entries

/-- The rules of a vocabulary are literal exactly when, in what it was read from, no text of
several characters stands in the place of a list, and no condition and no keyword is null. -/
theorem literal_iff_writtenOut {raw : Value} {vocabulary : Vocabulary}
    (accepted : read raw = .ok vocabulary) :
    ∃ entries, raw = .mapping entries ∧ (Literal entries vocabulary ↔ WrittenOut entries) := by
  obtain ⟨entries, rfl, source⟩ := readFrom_of_read accepted
  refine ⟨entries, rfl, ?_⟩
  have departments := corresponds_phrases_iff source.departments phrases_of_readDepartment
  have aggregations := corresponds_phrases_iff source.aggregations phrases_of_readAggregation
  have comparisons := corresponds_phrases_iff source.comparisons phrases_of_readComparison
  have metrics := corresponds_iff source.metrics fun _ _ => literalMetric_of_read
  have dateRanges := corresponds_iff source.dateRanges fun _ _ => literalDateRange_of_read
  constructor
  · intro literal
    exact ⟨departments.mp literal.departments, dateRanges.mp literal.dateRanges,
      aggregations.mp literal.aggregations, metrics.mp literal.metrics,
      comparisons.mp literal.comparisons⟩
  · intro plain
    exact ⟨departments.mpr plain.departments, dateRanges.mpr plain.dateRanges,
      aggregations.mpr plain.aggregations, metrics.mpr plain.metrics,
      comparisons.mpr plain.comparisons⟩

/-- A list is a section of its items. -/
theorem sectionUnder_of_list {entries : List (Value × Value)} {name : Text}
    {each : Value → Prop} {rules : List Value}
    (looked : Value.lookup? name entries = some (.list rules)) (all : ∀ rule ∈ rules, each rule) :
    SectionUnder name each entries := by
  intro value found
  obtain rfl := Option.some.inj (looked.symm.trans found)
  exact ⟨rules, rfl, all⟩

/-- A list is not taken apart. -/
theorem undividedUnder_of_list {trim : Text → Text} {items : List Value}
    (looked : Value.lookup? key fields = some (.list items)) : UndividedUnder trim key fields := by
  intro value found
  obtain rfl := Option.some.inj (looked.symm.trans found)
  exact trivial

theorem literal_sampleSource :
    ∃ entries, sampleSource = .mapping entries ∧ Literal entries sampleVocabulary := by
  obtain ⟨entries, source, decided⟩ := literal_iff_writtenOut read_sampleSource
  refine ⟨entries, source, decided.mpr ?_⟩
  cases source
  constructor
  case departments =>
    exact sectionUnder_of_list rfl
      (List.forall_mem_singleton.mpr ⟨_, rfl, undividedUnder_of_list rfl⟩)
  case dateRanges =>
    exact sectionUnder_of_list rfl (List.forall_mem_singleton.mpr
      ⟨_, rfl, undividedUnder_of_list rfl, _, rfl, Value.noConfusion⟩)
  case aggregations =>
    exact sectionUnder_of_list rfl
      (List.forall_mem_singleton.mpr ⟨_, rfl, undividedUnder_of_list rfl⟩)
  case metrics =>
    exact sectionUnder_of_list rfl (List.forall_mem_singleton.mpr
      ⟨_, rfl, ⟨_, rfl, Value.noConfusion⟩, undividedUnder_of_list rfl⟩)
  case comparisons =>
    exact sectionUnder_of_list rfl
      (List.forall_mem_singleton.mpr ⟨_, rfl, undividedUnder_of_list rfl⟩)

/-- The entries of a source with texts in the place of lists and keys that were left empty. -/
def carelessEntries : List (Value × Value) :=
  [(.text "schema", ((sampleSource.entries.toOption).bind (Value.lookup? "schema")).getD .null),
   (.text "departments", .list
     [.record [("code", .text "hr"), ("synonyms", .text "people")]]),
   (.text "date_ranges", .list
     [.record [("kind", .text "q1"), ("phrases", .texts ["spring"]), ("predicate", .null)]]),
   (.text "metrics", .list
     [.record [("keyword", .null), ("names", .text "rain")]])]

/-- The vocabulary that is read from it. -/
def carelessVocabulary : Vocabulary where
  version := .int 1
  schema := sampleVocabulary.schema
  departments := [{ code := .hr, synonyms := ["p", "e", "o", "p", "l", "e"] }]
  dateRanges :=
    [{ kind := .q1, phrases := ["spring"], predicate := "None", label := .text "q1" }]
  aggregations := []
  metrics := [{ keyword := "none", names := [.text "r", .text "a", .text "i", .text "n"] }]
  comparisons := []
  limits := { patterns := [], defaultRanked := 10, maximum := 1000 }

set_option maxRecDepth 20000 in
theorem read_carelessEntries : read (.mapping carelessEntries) = .ok carelessVocabulary := by
  with_unfolding_all rfl

/-- Such a source is accepted.  Its department is found in a question about help, its date window
has the condition None, and the metric is asked for with the word none. -/
theorem careless_accepted :
    read (.mapping carelessEntries) = .ok carelessVocabulary ∧
      ¬Literal carelessEntries carelessVocabulary ∧
      Extraction.department carelessVocabulary "help" none = some "hr".toList ∧
      Extraction.metrics carelessVocabulary "None of it" =
        [.text "r", .text "a", .text "i", .text "n"] := by
  refine ⟨read_carelessEntries, fun literal => ?_, by rfl, by rfl⟩
  obtain ⟨items, itemsRead, paired⟩ := literal.departments
  obtain rfl : [Value.record [("code", .text "hr"), ("synonyms", .text "people")]] = items :=
    Except.ok.inj itemsRead
  obtain ⟨_, ⟨⟩, matched⟩ := (List.forall₂_cons.mp paired).1
  obtain ⟨entry, listed, stands⟩ := matched "help" (by rfl)
  obtain rfl : entry = .text "people" := List.mem_singleton.mp listed
  have within := (Value.standsIn_text.mp stands).2
  revert within
  decide

end Vocabulary

end Inquiry
