import Inquiry.Proofs.Extraction.Mention
import Inquiry.Proofs.Text.Spelling

/-!
# Date windows that are named

A date window is asked for by name or by the words of a question, and both ways lead through the
same rules.  A name that spells the tag of a rule stands for the window of that rule; any other
name is read like a question, and one that mentions no rule stands for a window that filters
nothing.
-/

namespace Inquiry

/-! ## Tags of windows -/

theorem isTidy_dateKind (kind : DateKind) : Text.IsTidy (Tagged.tag kind) where
  ascii := by
    have all : ((Tagged.tag kind).all fun c => c.toNat < 128) = true := by cases kind <;> decide
    simpa using all
  plain := by
    have all : ((Tagged.tag kind).all fun c => !Text.isGap c) = true := by cases kind <;> decide
    exact Text.forall_not_of_all all
  single := by cases kind <;> decide
  ends := by cases kind <;> decide

theorem head?_dateKind_ne (kind : DateKind) : (Tagged.tag kind).head? ≠ some '_' := by
  cases kind <;> decide

namespace Extraction

variable {vocabulary : Vocabulary}

/-! ## Names and questions -/

/-- A tag looks up what its kind looks up. -/
theorem taggedRange?_tag (vocabulary : Vocabulary) (kind : DateKind) :
    taggedRange? vocabulary (Tagged.tag kind) = vocabulary.dateRange? kind := by
  refine List.find?_congr fun rule _ => ?_
  rw [Bool.eq_iff_iff, beq_iff_eq, beq_iff_eq]
  exact Tagged.tag_injective.eq_iff

theorem taggedRange?_of_mem (canonical : vocabulary.Canonical) {rule : DateRangeRule}
    (listed : rule ∈ vocabulary.dateRanges) :
    taggedRange? vocabulary (Tagged.tag rule.kind) = some rule := by
  rw [taggedRange?_tag, canonical.dateKinds.found rule listed]

theorem namedRange_of_tagged {given : Text} {rule : DateRangeRule}
    (tagged : taggedRange? vocabulary (Text.tag (Text.lower (Text.strip given))) = some rule) :
    namedRange vocabulary given = rule.dateRange := by
  simp only [namedRange, tagged, Option.orElse_some]

/-- A name that is no tag is read like a question. -/
theorem namedRange_of_untagged (canonical : vocabulary.Canonical) {given : Text}
    (untagged : taggedRange? vocabulary (Text.tag (Text.lower (Text.strip given))) = none) :
    namedRange vocabulary given =
      match mentionedRange? vocabulary (Text.lower given) with
      | some rule => rule.dateRange
      | none => { kind := .custom } := by
  have mentioned : mentionedRange? vocabulary (Text.lower (Text.strip given)) =
      mentionedRange? vocabulary (Text.lower given) := by
    rw [← Text.strip_lower]
    exact mentionedRange?_strip canonical.stripped.datePhrases _
  cases found : mentionedRange? vocabulary (Text.lower given) with
  | none => simp only [namedRange, untagged, Option.orElse_none, mentioned, found]
  | some rule => simp only [namedRange, untagged, Option.orElse_none, mentioned, found]

theorem dateRange_question (question : Text) :
    dateRange vocabulary question none =
      match mentionedRange? vocabulary (Text.lower question) with
      | some rule => rule.dateRange
      | none => {} := by
  cases found : mentionedRange? vocabulary (Text.lower question) with
  | none => simp only [dateRange, Option.filter_none, found]
  | some rule => simp only [dateRange, Option.filter_none, found]

/-- A name that is no tag stands for the window that it would be as a question, or else for one
that filters nothing. -/
theorem namedRange_eq_dateRange (canonical : vocabulary.Canonical) {given : Text}
    (untagged : taggedRange? vocabulary (Text.tag (Text.lower (Text.strip given))) = none) :
    namedRange vocabulary given =
      if (dateRange vocabulary given none).kind = .none then
        { kind := .custom, predicate := [], boundParams := [] }
      else dateRange vocabulary given none := by
  rw [namedRange_of_untagged canonical untagged, dateRange_question]
  cases mentioned : mentionedRange? vocabulary (Text.lower given) with
  | none => rfl
  | some rule =>
      have named := (canonical.dateKinds.named rule (List.mem_of_find?_eq_some mentioned)).1
      have kind : rule.kind ≠ .none := fun same => named (congrArg Tagged.tag same)
      exact (if_neg kind).symm

/-- A name is made into a tag.  The tag of a rule stands for its window, in every spelling; any
other name stands for what it would be as a question, and for a window of its own if that is
nothing. -/
theorem namedRange_resolves {raw : Value} (accepted : Vocabulary.read raw = .ok vocabulary) :
    (∀ given : Text, ∃ tag, Text.Underscored (Text.lower (Text.strip given)) tag ∧
      (∀ rule ∈ vocabulary.dateRanges, Tagged.tag rule.kind = tag →
        namedRange vocabulary given = rule.dateRange) ∧
      ((∀ rule ∈ vocabulary.dateRanges, Tagged.tag rule.kind ≠ tag) →
        namedRange vocabulary given =
          if (dateRange vocabulary given none).kind = .none then
            { kind := .custom, predicate := [], boundParams := [] }
          else dateRange vocabulary given none)) ∧
      ∀ rule ∈ vocabulary.dateRanges, ∀ leading spelled trailing : Text,
        (∀ c ∈ leading, Text.isBlank c = true) → Text.Spells (Tagged.tag rule.kind) spelled →
        (∀ c ∈ trailing, Text.isBlank c = true) →
          Text.Underscored (Text.lower (Text.strip (leading ++ spelled ++ trailing)))
              (Tagged.tag rule.kind) ∧
            namedRange vocabulary (leading ++ spelled ++ trailing) = rule.dateRange := by
  have canonical := Vocabulary.canonical_of_read accepted
  constructor
  · intro given
    refine ⟨_, Text.underscored_iff.mpr rfl, fun rule listed same => ?_, fun untagged => ?_⟩
    · apply namedRange_of_tagged
      rw [← same]
      exact taggedRange?_of_mem canonical listed
    · apply namedRange_eq_dateRange canonical
      exact List.find?_eq_none.mpr fun rule listed => by simpa using untagged rule listed
  · intro rule listed leading spelled trailing blanksBefore spells blanksAfter
    have underscored := spells.underscored_lower_strip (isTidy_dateKind rule.kind)
      (head?_dateKind_ne rule.kind) blanksBefore blanksAfter
    refine ⟨underscored, namedRange_of_tagged ?_⟩
    rw [Text.underscored_iff.mp underscored]
    exact taggedRange?_of_mem canonical listed

/-- The tag of a window that is a phrase of another one. -/
theorem spells_lastMonth : Text.Spells (Tagged.tag DateKind.lastMonth) "LAST -Month" :=
  .letter rfl <| .letter rfl <| .letter rfl <| .letter rfl <|
    @Text.Spells.gap [' ', '-'] _ _ (List.cons_ne_nil _ _) (List.all_eq_true.mp (by decide)) <|
    .letter rfl <| .letter rfl <| .letter rfl <| .letter rfl <| .letter rfl .done

theorem namedRange_resolves_overlapping :
    Text.Spells (Tagged.tag DateKind.lastMonth) "LAST -Month" ∧
      (namedRange overlappingVocabulary ("\t" ++ "LAST -Month" ++ " ")).kind = .lastMonth ∧
      (namedRange overlappingVocabulary "Next Spring").kind = .q1 ∧
      namedRange overlappingVocabulary "tomorrow" = { kind := .custom } := by
  obtain ⟨read, spelled⟩ := namedRange_resolves read_overlappingSource
  refine ⟨spells_lastMonth, ?_, ?_, ?_⟩
  · have named := (spelled overlappingVocabulary.dateRanges[1] (by simp [overlappingVocabulary])
      "\t" "LAST -Month" " " (List.all_eq_true.mp (by decide)) spells_lastMonth
      (List.all_eq_true.mp (by decide))).2
    exact congrArg DateRange.kind named
  · obtain ⟨tag, underscored, -, otherwise⟩ := read "Next Spring"
    rw [← Text.underscored_iff.mp underscored] at otherwise
    rw [otherwise (by decide +kernel)]
    decide +kernel
  · obtain ⟨tag, underscored, -, otherwise⟩ := read "tomorrow"
    rw [← Text.underscored_iff.mp underscored] at otherwise
    rw [otherwise (by decide +kernel)]
    decide +kernel

end Extraction

end Inquiry
