import Inquiry.Explanation
import Inquiry.Proofs.Outcome

/-!
# Explanations that can be given

An explanation fails only on a label that is not a text.
-/

namespace Inquiry

/-- Every label of a vocabulary is a text. -/
structure Vocabulary.Labelled (vocabulary : Vocabulary) : Prop where
  dateRanges : ∀ rule ∈ vocabulary.dateRanges, rule.label.text?.isSome = true
  aggregations : ∀ rule ∈ vocabulary.aggregations, rule.label.text?.isSome = true

namespace Explanation

variable {vocabulary : Vocabulary}

theorem exists_spoken {label : Value} (given : label.text?.isSome = true) :
    ∃ content, spoken label = .ok content := by
  cases label with
  | text content => exact ⟨content, rfl⟩
  | _ => cases given

theorem text_describe (labelled : vocabulary.Labelled) (kind : DateKind) :
    (describe vocabulary kind).text?.isSome = true := by
  rw [describe, describeTag]
  split
  · rfl
  · split
    · rfl
    · split
      next rule found => exact labelled.dateRanges rule (List.mem_of_find?_eq_some found)
      next => rfl

theorem exists_datePart (labelled : vocabulary.Labelled) (kind : DateKind) :
    ∃ window, datePart vocabulary kind = .ok window := by
  obtain ⟨label, said⟩ := exists_spoken (text_describe labelled kind)
  cases kind with
  | none => exact ⟨[], rfl⟩
  | custom => exact ⟨_, rfl⟩
  | q1 | q2 | q3 | q4 | lastMonth | thisMonth | thisYear =>
      refine ⟨["during ".toList ++ label], ?_⟩
      simp only [datePart, said]
      rfl

theorem exists_verbPart (labelled : vocabulary.Labelled) (kind : AggregationKind) :
    ∃ verb, verbPart (vocabulary.aggregation? kind) = .ok verb := by
  cases found : vocabulary.aggregation? kind with
  | none => exact ⟨_, rfl⟩
  | some rule =>
      obtain ⟨label, said⟩ :=
        exists_spoken (labelled.aggregations rule (List.mem_of_find?_eq_some found))
      exact ⟨_, Outcome.map_eq_ok.mpr ⟨label, said, rfl⟩⟩

end Explanation

/-- Under labels that are texts every intent is explained. -/
theorem exists_explain {vocabulary : Vocabulary} (labelled : vocabulary.Labelled)
    (intent : Intent) (trail : List Text) :
    ∃ explanation, explain vocabulary intent trail = .ok explanation := by
  rw [explain]
  split
  · exact ⟨_, rfl⟩
  · obtain ⟨verb, verbFound⟩ := Explanation.exists_verbPart labelled intent.aggregation.kind
    obtain ⟨window, windowFound⟩ := Explanation.exists_datePart labelled intent.dateRange.kind
    exact ⟨_, Outcome.bind_eq_ok.mpr
      ⟨verb, verbFound, Outcome.bind_eq_ok.mpr ⟨window, windowFound, rfl⟩⟩⟩

end Inquiry
