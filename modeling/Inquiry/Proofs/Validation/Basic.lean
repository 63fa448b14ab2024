import Inquiry.Proofs.Outcome
import Inquiry.Proofs.Tag
import Inquiry.Validation.Basic

/-!
# Checked results

A record is read when each of its parts is, and texts are read as they stand.
-/

namespace Inquiry

namespace Checked

variable {α β : Type}

theorem apply_eq_ok {build : Checked (α → β)} {part : Checked α} {result : β} :
    build.apply part = .ok result ↔
      ∃ make value, build = .ok make ∧ part = .ok value ∧ make value = result := by
  cases build <;> cases part <;> simp [apply]

theorem under_eq_ok {step : Validation.Step} {part : Checked α} {value : α} :
    part.under step = .ok value ↔ part = .ok value :=
  Outcome.mapError_eq_ok

theorem map_eq_ok {part : Checked α} {change : α → β} {result : β} :
    part.map change = .ok result ↔ ∃ value, part = .ok value ∧ change value = result :=
  Outcome.map_eq_ok

end Checked

namespace Validation

theorem text_eq_ok {value : Value} {content : Text} :
    text value = .ok content ↔ value = .text content := by
  cases value <;> simp [text, Checked.fail]

/-- Only texts are read as texts, each as it stands. -/
theorem textsFrom_eq_ok {position : Nat} {values : List Value} {contents : List Text}
    (success : textsFrom position values = .ok contents) :
    values = contents.map .text := by
  induction values generalizing position contents with
  | nil =>
      cases success
      rfl
  | cons value rest ih =>
      obtain ⟨make, others, head, tail, rfl⟩ := Checked.apply_eq_ok.mp success
      obtain ⟨content, read, rfl⟩ := Checked.map_eq_ok.mp head
      rw [text_eq_ok.mp (Checked.under_eq_ok.mp read), ih tail, List.map_cons]

theorem tagged_eq_ok {α : Type} [Tagged α] {content : Text} {kind : α}
    (success : tagged α (.text content) = .ok kind) : Tagged.tag kind = content := by
  simp only [tagged] at success
  split at success
  next found =>
    cases success
    exact Tagged.tag_of_ofTag found
  next => cases success

theorem tagged_tag {α : Type} [Tagged α] [LawfulTagged α] (kind : α) :
    tagged α (.text (Tagged.tag kind)) = .ok kind := by
  have found : (Value.text (Tagged.tag kind)).text?.bind Tagged.ofTag? = some kind :=
    LawfulTagged.ofTag_tag kind
  rw [tagged, found]

theorem textsFrom_map_text (position : Nat) (contents : List Text) :
    textsFrom position (contents.map .text) = .ok contents := by
  induction contents generalizing position with
  | nil => rfl
  | cons content rest ih =>
      rw [List.map_cons, textsFrom, ih (position + 1)]
      rfl

end Validation

end Inquiry
