import Inquiry.Text.Basic

/-!
# Tags

Finite kinds are written as fixed tags in data files, requests and answers.
-/

namespace Inquiry

/-- A finite kind whose members are written as tags, listed in the order in
which messages name them. -/
class Tagged (α : Type) where
  all : List α
  tag : α → Text

namespace Tagged

/-- The tags of a kind, in order. -/
def tags (α : Type) [Tagged α] : List Text :=
  (all : List α).map tag

/-- The member that a tag denotes. -/
def ofTag? {α : Type} [Tagged α] (text : Text) : Option α :=
  (all : List α).find? fun kind => tag kind == text

end Tagged

end Inquiry
