import Inquiry.Proofs.Extraction
import Inquiry.Proofs.Vocabulary.Representation
import Inquiry.Vocabulary.Bundled

/-!
# Rules that a question mentions

The rules of a table are tried in order, and the first one with a phrase in the question decides.
Phrases have no blanks at their ends and are in small letters, so the blanks around a question and
the case of its letters make no difference.

A question that holds another one mentions whatever that one mentions.  Its answers come from the
same rules or from earlier ones, and it names every metric that the other one names.
-/

namespace Inquiry

/-- No phrase of a vocabulary has blanks at its ends. -/
structure Vocabulary.Stripped (vocabulary : Vocabulary) : Prop where
  synonyms : ∀ rule ∈ vocabulary.departments, ∀ synonym ∈ rule.synonyms,
    Text.strip synonym = synonym
  datePhrases : ∀ rule ∈ vocabulary.dateRanges, ∀ phrase ∈ rule.phrases,
    Text.strip phrase = phrase
  aggregationKeywords : ∀ rule ∈ vocabulary.aggregations, ∀ keyword ∈ rule.keywords,
    Text.strip keyword = keyword
  metricKeywords : ∀ rule ∈ vocabulary.metrics, Text.strip rule.keyword = rule.keyword
  comparisonKeywords : ∀ rule ∈ vocabulary.comparisons, ∀ keyword ∈ rule.keywords,
    Text.strip keyword = keyword

theorem Vocabulary.Canonical.stripped {vocabulary : Vocabulary}
    (canonical : vocabulary.Canonical) : vocabulary.Stripped where
  synonyms := fun rule listed synonym member =>
    (canonical.synonyms rule listed synonym member).stripped
  datePhrases := fun rule listed phrase member =>
    (canonical.datePhrases rule listed phrase member).stripped
  aggregationKeywords := fun rule listed keyword member =>
    (canonical.aggregationKeywords rule listed keyword member).stripped
  metricKeywords := fun rule listed => (canonical.metricKeywords rule listed).stripped
  comparisonKeywords := fun rule listed keyword member =>
    (canonical.comparisonKeywords rule listed keyword member).stripped

namespace Extraction

variable {vocabulary : Vocabulary}

/-! ## Phrases in a text -/

theorem mentions_iff {phrases : List Text} {text : Text} :
    mentions phrases text = true ↔ ∃ phrase ∈ phrases, phrase <:+: text := by
  simp only [mentions, List.any_eq_true, Text.occurs_iff]

theorem mentions_strip {phrases : List Text}
    (stripped : ∀ phrase ∈ phrases, Text.strip phrase = phrase) (text : Text) :
    mentions phrases (Text.strip text) = mentions phrases text := by
  rw [Bool.eq_iff_iff]
  simp only [mentions, List.any_eq_true]
  refine exists_congr fun phrase => and_congr_right fun listed => ?_
  rw [Text.occurs_strip (stripped phrase listed)]

/-- A text mentions what a piece of it mentions. -/
theorem mentions_of_within {phrases : List Text} {text longer : Text} (within : text <:+: longer)
    (mentioned : mentions phrases text = true) : mentions phrases longer = true := by
  obtain ⟨phrase, listed, here⟩ := mentions_iff.mp mentioned
  exact mentions_iff.mpr ⟨phrase, listed, here.trans within⟩

/-- The words of all rankings are mentioned when those of one ranking are. -/
theorem mentions_comparisonKeywords {text : Text} :
    mentions vocabulary.comparisonKeywords text = true ↔
      ∃ rule ∈ vocabulary.comparisons, mentions rule.keywords text = true := by
  simp only [mentions_iff, Vocabulary.comparisonKeywords, List.mem_flatMap]
  constructor
  · rintro ⟨keyword, ⟨rule, listed, member⟩, within⟩
    exact ⟨rule, listed, keyword, member, within⟩
  · rintro ⟨rule, listed, keyword, member, within⟩
    exact ⟨keyword, ⟨rule, listed, member⟩, within⟩

/-! ## The first rule of a table -/

section Table

variable {ρ : Type} {rules : List ρ} {phrases : ρ → List Text}

/-- The first rule of a table with a phrase in the text, and its place. -/
structure FirstMention (rules : List ρ) (phrases : ρ → List Text) (text : Text) (place : Nat)
    (rule : ρ) : Prop where
  there : rules[place]? = some rule
  mentioned : mentions (phrases rule) text = true
  unmentioned : ∀ earlier < place, ∀ other, rules[earlier]? = some other →
    mentions (phrases other) text = false

/-- Wherever a rule is mentioned, the first one that is mentioned stands there or before. -/
theorem exists_firstMention {text : Text} {place : Nat} {rule : ρ}
    (there : rules[place]? = some rule) (mentioned : mentions (phrases rule) text = true) :
    ∃ earlier ≤ place, ∃ first, FirstMention rules phrases text earlier first ∧
      rules.find? (fun rule => mentions (phrases rule) text) = some first := by
  obtain ⟨first, found⟩ : ∃ first,
      rules.find? (fun rule => mentions (phrases rule) text) = some first := by
    rw [← Option.isSome_iff_exists, List.find?_isSome]
    exact ⟨rule, List.mem_of_getElem? there, mentioned⟩
  obtain ⟨holds, earlier, inside, here, before⟩ := List.find?_eq_some_iff_getElem.mp found
  have unmentioned : ∀ other < earlier, ∀ passed, rules[other]? = some passed →
      mentions (phrases passed) text = false := by
    intro other less passed at_other
    obtain ⟨bound, rfl⟩ := List.getElem?_eq_some_iff.mp at_other
    simpa using before other less
  refine ⟨earlier, ?_, first, ⟨List.getElem?_eq_some_iff.mpr ⟨inside, here⟩, holds, unmentioned⟩,
    found⟩
  by_contra later
  have passed := unmentioned place (Nat.lt_of_not_le later) rule there
  rw [mentioned] at passed
  cases passed

/-- Whatever rule the text mentions, the reading of the longer text is the answer of the first
rule that the longer text mentions, and that one stands no later. -/
def AnsweredNoLater {α : Type} (rules : List ρ) (phrases : ρ → List Text) (text longer : Text)
    (answer : ρ → α) (reading : α) : Prop :=
  ∀ place rule, rules[place]? = some rule → mentions (phrases rule) text = true →
    ∃ earlier ≤ place, ∃ first,
      FirstMention rules phrases longer earlier first ∧ reading = answer first

theorem answeredNoLater_of_within {α : Type} {text longer : Text} (within : text <:+: longer)
    {answer : ρ → α} {reading : α}
    (read : ∀ first, rules.find? (fun rule => mentions (phrases rule) longer) = some first →
      reading = answer first) :
    AnsweredNoLater rules phrases text longer answer reading := by
  intro place rule there mentioned
  obtain ⟨earlier, noLater, first, firstMention, found⟩ :=
    exists_firstMention there (mentions_of_within within mentioned)
  exact ⟨earlier, noLater, first, firstMention, read first found⟩

end Table

/-! ## Blanks and capital letters -/

/-- The first rule that is mentioned does not depend on the blanks around the text. -/
theorem find?_mentions_strip {ρ : Type} {rules : List ρ} {phrases : ρ → List Text}
    (stripped : ∀ rule ∈ rules, ∀ phrase ∈ phrases rule, Text.strip phrase = phrase)
    (text : Text) :
    rules.find? (fun rule => mentions (phrases rule) (Text.strip text)) =
      rules.find? fun rule => mentions (phrases rule) text :=
  List.find?_congr fun rule listed => mentions_strip (stripped rule listed) text

theorem department_strip_lower (stripped : ∀ rule ∈ vocabulary.departments,
    ∀ synonym ∈ rule.synonyms, Text.strip synonym = synonym) (question : Text) :
    department vocabulary (Text.strip (Text.lower question)) none =
      department vocabulary question none := by
  simp only [department, Text.lower_strip_lower, find?_mentions_strip stripped]

theorem mentionedRange?_strip (stripped : ∀ rule ∈ vocabulary.dateRanges,
    ∀ phrase ∈ rule.phrases, Text.strip phrase = phrase) (text : Text) :
    mentionedRange? vocabulary (Text.strip text) = mentionedRange? vocabulary text :=
  find?_mentions_strip stripped text

theorem dateRange_strip_lower (stripped : ∀ rule ∈ vocabulary.dateRanges,
    ∀ phrase ∈ rule.phrases, Text.strip phrase = phrase) (question : Text) :
    dateRange vocabulary (Text.strip (Text.lower question)) none =
      dateRange vocabulary question none := by
  simp only [dateRange, Option.filter_none, Text.lower_strip_lower,
    mentionedRange?_strip stripped]

theorem aggregation_strip_lower (stripped : ∀ rule ∈ vocabulary.aggregations,
    ∀ keyword ∈ rule.keywords, Text.strip keyword = keyword) (question : Text) :
    aggregation vocabulary (Text.strip (Text.lower question)) =
      aggregation vocabulary question := by
  simp only [aggregation, Text.lower_strip_lower, find?_mentions_strip stripped]

theorem comparison_strip_lower (stripped : ∀ rule ∈ vocabulary.comparisons,
    ∀ keyword ∈ rule.keywords, Text.strip keyword = keyword) (question : Text) :
    comparison vocabulary (Text.strip (Text.lower question)) =
      comparison vocabulary question := by
  simp only [comparison, Text.lower_strip_lower, find?_mentions_strip stripped]

/-! ## Metrics -/

/-- Each rule adds all its metrics at its own place, or nothing. -/
theorem metrics_eq_flatten (vocabulary : Vocabulary) (question : Text) :
    metrics vocabulary question = (vocabulary.metrics.map fun rule =>
      if rule.keyword <:+: Text.lower question then rule.names else []).flatten := by
  rw [metrics]
  induction vocabulary.metrics with
  | nil => rfl
  | cons rule rest ih =>
      rw [List.map_cons, List.flatten_cons, ← ih, List.filter_cons]
      by_cases within : rule.keyword <:+: Text.lower question
      · rw [if_pos (Text.occurs_iff.mpr within), if_pos within, List.flatMap_cons]
      · rw [if_neg (mt Text.occurs_iff.mp within), if_neg within, List.nil_append]

theorem metrics_sublist_of_within {question longer : Text}
    (within : Text.lower question <:+: Text.lower longer) :
    (metrics vocabulary question).Sublist (metrics vocabulary longer) := by
  apply List.Sublist.flatMap
  apply List.monotone_filter_right
  intro rule occurs
  exact Text.occurs_iff.mpr ((Text.occurs_iff.mp occurs).trans within)

/-! ## Rankings and the default limit -/

/-- A question asks for a ranking when it has the words of one. -/
theorem comparison_kind_ne_none_iff (wellFormed : vocabulary.WellFormed) {question : Text} :
    (comparison vocabulary question).kind ≠ .none ↔
      mentions vocabulary.comparisonKeywords (Text.lower question) = true := by
  rw [mentions_comparisonKeywords]
  cases found : vocabulary.comparisons.find?
      (fun rule => mentions rule.keywords (Text.lower question)) with
  | some rule =>
      have listed := List.mem_of_find?_eq_some found
      simp only [comparison, found]
      have mentioned : mentions rule.keywords (Text.lower question) = true := by
        simpa using List.find?_some found
      exact iff_of_true (wellFormed.comparisonKindNamed rule listed) ⟨rule, listed, mentioned⟩
  | none =>
      simp only [comparison, found]
      refine iff_of_false (not_not.mpr rfl) ?_
      rintro ⟨rule, listed, mentioned⟩
      exact List.find?_eq_none.mp found rule listed mentioned

/-- Without a number that is asked for, the limit is the default of rankings or none. -/
theorem limit_of_unmatched (wellFormed : vocabulary.WellFormed) {question : Text}
    (unmatched : ∀ rule ∈ vocabulary.limits.patterns,
      rule.pattern.search (Text.lower question) = none) :
    limit vocabulary question =
      .ok (if (comparison vocabulary question).kind ≠ .none then vocabulary.limits.defaultRanked
        else 0) := by
  have nothing : vocabulary.limits.patterns.findSome?
      (fun rule => rule.pattern.search (Text.lower question)) = none :=
    List.findSome?_eq_none_iff.mpr unmatched
  simp only [limit, nothing, comparison_kind_ne_none_iff wellFormed]
  split <;> rfl

/-- A question that holds another one is answered by rules that stand no later and names all the
metrics of the other one, those of each keyword once and in the order of the rules.  A question
without a number is limited when it asks for a ranking. -/
theorem readings_monotone {raw : Value} (accepted : Vocabulary.read raw = .ok vocabulary)
    {question longer : Text} (within : Text.lower question <:+: Text.lower longer) :
    AnsweredNoLater vocabulary.departments (·.synonyms) (Text.lower question) (Text.lower longer)
        (fun rule => some (Tagged.tag rule.code)) (department vocabulary longer none) ∧
      AnsweredNoLater vocabulary.dateRanges (·.phrases) (Text.lower question) (Text.lower longer)
        (·.dateRange) (dateRange vocabulary longer none) ∧
      AnsweredNoLater vocabulary.aggregations (·.keywords) (Text.lower question)
        (Text.lower longer)
        (fun rule => { kind := rule.kind, sqlFunction := Tagged.tag rule.function })
        (aggregation vocabulary longer) ∧
      AnsweredNoLater vocabulary.comparisons (·.keywords) (Text.lower question)
        (Text.lower longer) (fun rule => { kind := rule.kind, direction := rule.direction })
        (comparison vocabulary longer) ∧
      (metrics vocabulary question).Sublist (metrics vocabulary longer) ∧
      (metrics vocabulary question = (vocabulary.metrics.map fun rule =>
        if rule.keyword <:+: Text.lower question then rule.names else []).flatten) ∧
      ((∀ rule ∈ vocabulary.limits.patterns,
          rule.pattern.search (Text.lower question) = none) →
        limit vocabulary question =
          .ok (if (comparison vocabulary question).kind ≠ .none then
            vocabulary.limits.defaultRanked else 0)) := by
  refine ⟨answeredNoLater_of_within within fun first found => ?_,
    answeredNoLater_of_within within fun first found => ?_,
    answeredNoLater_of_within within fun first found => ?_,
    answeredNoLater_of_within within fun first found => ?_,
    metrics_sublist_of_within within, metrics_eq_flatten vocabulary question,
    limit_of_unmatched (Vocabulary.wellFormed_of_read accepted)⟩
  · simp only [department, found, Option.map_some]
  · simp only [dateRange, Option.filter_none, mentionedRange?, found]
  · simp only [aggregation, found]
  · simp only [comparison, found]

/-! ## A vocabulary whose phrases overlap -/

/-- A source in which the tag of one window is a phrase of another one and a phrase of one rule
holds that of another one. -/
def overlappingSource : Value := .record
  [("schema", ((Vocabulary.sampleSource.entries.toOption).bind
     (Value.lookup? "schema")).getD .null),
   ("departments", .list
     [.record [("code", .text "hr"), ("synonyms", .texts ["staff"])],
      .record [("code", .text "sales"), ("synonyms", .texts ["deals", "staff deals"])]]),
   ("date_ranges", .list
     [.record [("kind", .text "q1"), ("phrases", .texts ["last month", "spring"]),
       ("predicate", .text "\x7bdate\x7d < 4")],
      .record [("kind", .text "last_month"), ("phrases", .texts ["lately"]),
       ("predicate", .text "\x7bdate\x7d > 9")]]),
   ("metrics", .list
     [.record [("keyword", .text "rain"), ("names", .texts ["rain", "snow"])],
      .record [("keyword", .text "wind"), ("names", .texts ["wind"])]]),
   ("comparisons", .list
     [.record [("kind", .text "top"), ("keywords", .texts ["most"]),
       ("direction", .text "desc")]]),
   ("limits", .record [("patterns", .texts
     ["top\\s+([0-9]+)", "first\\s+([0-9]+)", "([0-9]+)\\s+(?:top|best|worst)"])])]

/-- The vocabulary that `overlappingSource` describes. -/
def overlappingVocabulary : Vocabulary where
  version := .int 1
  schema := Vocabulary.sampleVocabulary.schema
  departments :=
    [{ code := .hr, synonyms := ["staff"] },
     { code := .sales, synonyms := ["deals", "staff deals"] }]
  dateRanges :=
    [{ kind := .q1, phrases := ["last month", "spring"], predicate := "r.taken_on < 4"
       label := .text "q1" },
     { kind := .lastMonth, phrases := ["lately"], predicate := "r.taken_on > 9"
       label := .text "last month" }]
  aggregations := []
  metrics :=
    [{ keyword := "rain", names := [.text "rain", .text "snow"] },
     { keyword := "wind", names := [.text "wind"] }]
  comparisons := [{ kind := .top, keywords := ["most"], direction := .descending }]
  limits :=
    { patterns := Vocabulary.bundled.limits.patterns, defaultRanked := 10, maximum := 1000 }

set_option maxRecDepth 20000 in
theorem read_overlappingSource : Vocabulary.read overlappingSource = .ok overlappingVocabulary := by
  with_unfolding_all rfl

theorem readings_monotone_overlapping :
    Text.lower "Wind of the DEALS" <:+: Text.lower "Rain, wind of the deals of the staff" ∧
      (∃ earlier ≤ 1, ∃ first, FirstMention overlappingVocabulary.departments (·.synonyms)
          (Text.lower "Rain, wind of the deals of the staff") earlier first ∧
        department overlappingVocabulary "Rain, wind of the deals of the staff" none =
          some (Tagged.tag first.code)) ∧
      (metrics overlappingVocabulary "Wind of the DEALS").Sublist
        (metrics overlappingVocabulary "Rain, wind of the deals of the staff") ∧
      limit overlappingVocabulary "Wind of the DEALS" = .ok 0 := by
  have within : Text.lower "Wind of the DEALS" <:+:
      Text.lower "Rain, wind of the deals of the staff" :=
    Text.occurs_iff.mp (by decide +kernel)
  obtain ⟨answered, -, -, -, named, -, limited⟩ := readings_monotone read_overlappingSource within
  refine ⟨within, answered 1 _ rfl (by decide +kernel), named, ?_⟩
  rw [limited (by decide +kernel)]
  rfl

end Extraction

end Inquiry
