import Inquiry.Kind
import Mathlib

/-!
# Reading tags back

The tags of each kind are pairwise distinct, so a tag is read back as the member
that it was written for.
-/

namespace Inquiry

/-- A kind whose tags are read back. -/
class LawfulTagged (α : Type) [Tagged α] : Prop where
  ofTag_tag : ∀ kind : α, Tagged.ofTag? (Tagged.tag kind) = some kind

namespace Tagged

variable {α : Type} [Tagged α]

theorem tag_of_ofTag {text : Text} {kind : α} (found : ofTag? text = some kind) :
    tag kind = text := by
  simpa using List.find?_some found

theorem tag_injective [LawfulTagged α] : Function.Injective (tag : α → Text) := by
  intro first second same
  have read := LawfulTagged.ofTag_tag first
  rw [same, LawfulTagged.ofTag_tag second] at read
  exact (Option.some.inj read).symm

end Tagged

instance : LawfulTagged Department where
  ofTag_tag kind := by cases kind <;> decide

instance : LawfulTagged DateKind where
  ofTag_tag kind := by cases kind <;> decide

instance : LawfulTagged AggregationKind where
  ofTag_tag kind := by cases kind <;> decide

instance : LawfulTagged ComparisonKind where
  ofTag_tag kind := by cases kind <;> decide

end Inquiry
