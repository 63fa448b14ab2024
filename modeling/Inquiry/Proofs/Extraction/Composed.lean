import Inquiry.Proofs.Extraction
import Inquiry.Proofs.Extraction.Asked

/-!
# Intents and their readings

A question is stripped and turned into small letters before it is read, and every reading turns it
into small letters once more.  Neither makes a difference: an intent is what the readings find in
the question as it was asked, in whatever case and between whatever blanks.

Only the patterns of a vocabulary may look at the blanks around a question.  The bundled ones do
not.
-/

namespace Inquiry

namespace Extraction

open Intent (ofQuestion ofReadings_of_known)

variable {vocabulary : Vocabulary}

/-! ## The question as it is read -/

/-- Only the small letters between the blanks are read. -/
theorem ofQuestion_congr {question other : Text}
    (same : Text.strip (Text.lower question) = Text.strip (Text.lower other))
    (department dateRange : Value) :
    ofQuestion vocabulary question department dateRange =
      ofQuestion vocabulary other department dateRange := by
  rw [ofQuestion, ofQuestion, same]

theorem ofQuestion_lower (question : Text) (department dateRange : Value) :
    ofQuestion vocabulary (Text.lower question) department dateRange =
      ofQuestion vocabulary question department dateRange :=
  ofQuestion_congr (by rw [Text.lower_lower]) department dateRange

theorem ofQuestion_between_blanks {leading trailing : Text}
    (blanksBefore : ∀ c ∈ leading, Text.isBlank c = true)
    (blanksAfter : ∀ c ∈ trailing, Text.isBlank c = true) (question : Text)
    (department dateRange : Value) :
    ofQuestion vocabulary (leading ++ question ++ trailing) department dateRange =
      ofQuestion vocabulary question department dateRange := by
  apply ofQuestion_congr
  rw [Text.lower_between_blanks blanksBefore blanksAfter, Text.strip_append_blanks blanksAfter,
    Text.strip_blanks_append blanksBefore]

/-! ## The readings of a question -/

/-- What an intent is put together from if the limit can be read. -/
theorem ofQuestion_of_readings {question : Text} {code : Option Department} {names : List Text}
    (coded : code.map Tagged.tag =
      department vocabulary (Text.strip (Text.lower question)) none)
    (named : names.map .text = metrics vocabulary (Text.strip (Text.lower question))) :
    ofQuestion vocabulary question .null .null =
      (limit vocabulary (Text.strip (Text.lower question))).map fun limit =>
        { department := code
          dateRange := dateRange vocabulary (Text.strip (Text.lower question)) none
          aggregation := aggregation vocabulary (Text.strip (Text.lower question))
          metrics := names
          comparison := comparison vocabulary (Text.strip (Text.lower question))
          limit } := by
  have absent : override .null = .ok none := rfl
  simp only [ofQuestion, absent, bind, Except.bind, ← coded, ← named]
  cases limit vocabulary (Text.strip (Text.lower question)) with
  | error fault => rfl
  | ok bound =>
      simp only [ofReadings_of_known]
      rfl

/-- The names of the metrics are texts if those of the rules are. -/
theorem exists_names (texts : ∀ rule ∈ vocabulary.metrics, ∀ name ∈ rule.names,
    name.text?.isSome = true) (question : Text) :
    ∃ names : List Text, names.map .text = metrics vocabulary question := by
  have all : ∀ name ∈ metrics vocabulary question, name.text?.isSome = true := by
    intro name member
    obtain ⟨rule, listed, there⟩ :=
      List.mem_flatMap.mp ((metrics_sublist vocabulary question).subset member)
    exact texts rule listed name there
  obtain ⟨names, named⟩ := exists_texts all
  exact ⟨names, named.symm⟩

/-- The intent of a question is what the readings find in the question as it was asked, and with
the bundled patterns so is its limit, or what stops the reading.  It does not depend on the case of
the letters or on the blanks around the question. -/
theorem ofQuestion_composes {raw : Value} (accepted : Vocabulary.read raw = .ok vocabulary)
    (texts : ∀ rule ∈ vocabulary.metrics, ∀ name ∈ rule.names, name.text?.isSome = true)
    (question : Text) :
    (∃ (code : Option Department) (names : List Text),
      code.map Tagged.tag = department vocabulary question none ∧
        names.map .text = metrics vocabulary question ∧
        ofQuestion vocabulary question .null .null =
          (limit vocabulary (Text.strip (Text.lower question))).map fun limit =>
            { department := code
              dateRange := dateRange vocabulary question none
              aggregation := aggregation vocabulary question
              metrics := names
              comparison := comparison vocabulary question
              limit }) ∧
      (vocabulary.limits.patterns = Vocabulary.bundled.limits.patterns →
        limit vocabulary (Text.strip (Text.lower question)) = limit vocabulary question) ∧
      (∀ department dateRange, ofQuestion vocabulary (Text.lower question) department dateRange =
        ofQuestion vocabulary question department dateRange) ∧
      ∀ leading trailing : Text, (∀ c ∈ leading, Text.isBlank c = true) →
        (∀ c ∈ trailing, Text.isBlank c = true) → ∀ department dateRange,
          ofQuestion vocabulary (leading ++ question ++ trailing) department dateRange =
            ofQuestion vocabulary question department dateRange := by
  have stripped := (Vocabulary.canonical_of_read accepted).stripped
  refine ⟨?_, fun bundled => ?_, ofQuestion_lower question,
    fun leading trailing blanksBefore blanksAfter =>
      ofQuestion_between_blanks blanksBefore blanksAfter question⟩
  · obtain ⟨code, coded⟩ : ∃ code : Option Department,
        department vocabulary question none = code.map Tagged.tag :=
      @exists_department vocabulary .null none rfl rfl question
    obtain ⟨names, named⟩ := exists_names texts question
    refine ⟨code, names, coded.symm, named, ?_⟩
    rw [← department_strip_lower stripped.synonyms] at coded
    rw [← metrics_strip_lower stripped.metricKeywords] at named
    rw [ofQuestion_of_readings coded.symm named, dateRange_strip_lower stripped.datePhrases,
      aggregation_strip_lower stripped.aggregationKeywords,
      comparison_strip_lower stripped.comparisonKeywords]
  · refine limit_strip_lower bundled (fun keyword member => ?_) question
    obtain ⟨rule, listed, there⟩ := List.mem_flatMap.mp member
    exact stripped.comparisonKeywords rule listed keyword there

theorem ofQuestion_composes_overlapping :
    (∃ (code : Option Department) (names : List Text),
      code.map Tagged.tag = some "sales" ∧ names = ["rain", "snow"] ∧
        ofQuestion overlappingVocabulary "RAIN: the Top 005 Deals" .null .null =
          .ok { department := code, metrics := names, limit := 5 }) ∧
      ofQuestion overlappingVocabulary ("\u2003" ++ "RAIN: the Top 005 Deals" ++ "\n") .null .null =
        ofQuestion overlappingVocabulary "RAIN: the Top 005 Deals" .null .null := by
  have texts : ∀ rule ∈ overlappingVocabulary.metrics, ∀ name ∈ rule.names,
      name.text?.isSome = true := by
    decide
  obtain ⟨⟨code, names, coded, named, composed⟩, limited, -, padded⟩ :=
    ofQuestion_composes read_overlappingSource texts "RAIN: the Top 005 Deals"
  refine ⟨⟨code, names, ?_, ?_, ?_⟩, ?_⟩
  · rw [coded]
    decide +kernel
  · have texts : names.map Value.text = (["rain", "snow"] : List Text).map .text := by
      rw [named]
      with_unfolding_all rfl
    exact List.map_injective_iff.mpr (fun _ _ same => Value.text.inj same) texts
  · have five : limit overlappingVocabulary "RAIN: the Top 005 Deals" = .ok 5 := by
      with_unfolding_all rfl
    rw [composed, limited rfl, five]
    with_unfolding_all rfl
  · exact padded "\u2003" "\n" (List.all_eq_true.mp (by decide)) (List.all_eq_true.mp (by decide))
      .null .null

end Extraction

end Inquiry
