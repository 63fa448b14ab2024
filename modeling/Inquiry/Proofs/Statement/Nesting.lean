import Inquiry.Safety.Gate
import Mathlib

/-!
# Nesting in statements

How deep a position of a statement lies is told by what stands before it: how many
parentheses are open there, and whether a quoted literal is.  Parentheses in a literal are
part of the literal.
-/

namespace Inquiry

/-- What is open at a position of a statement. -/
structure Nesting where
  depth : Nat := 0
  quoted : Bool := false
  deriving Repr, DecidableEq

namespace Nesting

/-- The mark at both ends of a literal. -/
def quoteMark : Char := '\x27'

/-- What is open behind a character. -/
def step (nesting : Nesting) (c : Char) : Nesting :=
  if c = quoteMark then { nesting with quoted := !nesting.quoted }
  else if nesting.quoted then nesting
  else if c = '(' then { nesting with depth := nesting.depth + 1 }
  else if c = ')' then { nesting with depth := nesting.depth - 1 }
  else nesting

/-- What is open behind a text. -/
def after (nesting : Nesting) (text : Text) : Nesting :=
  text.foldl step nesting

/-- Nothing is open. -/
def isOuter (nesting : Nesting) : Bool :=
  nesting.depth == 0 && !nesting.quoted

/-- The character opens or closes something. -/
def isBracket (c : Char) : Bool :=
  c == quoteMark || c == '(' || c == ')'

variable {nesting : Nesting} {text : Text}

@[simp] theorem after_append (nesting : Nesting) (left right : Text) :
    nesting.after (left ++ right) = (nesting.after left).after right :=
  List.foldl_append

theorem isOuter_iff : nesting.isOuter = true ↔ nesting = {} := by
  obtain ⟨depth, quoted⟩ := nesting
  simp [isOuter]

theorem step_of_plain {c : Char} (plain : isBracket c = false) : nesting.step c = nesting := by
  simp only [isBracket, Bool.or_eq_false_iff, beq_eq_false_iff_ne] at plain
  obtain ⟨⟨quote, opening⟩, closing⟩ := plain
  simp [step, quote, opening, closing]

/-- A text without brackets leaves open what was open. -/
theorem after_of_plain (plain : ∀ c ∈ text, isBracket c = false) :
    nesting.after text = nesting := by
  induction text with
  | nil => rfl
  | cons c rest ih =>
      rw [List.forall_mem_cons] at plain
      rw [after, List.foldl_cons, step_of_plain plain.1]
      exact ih plain.2

/-- A text between parentheses leaves nothing open that was not open before. -/
theorem after_parenthesised (plain : ∀ c ∈ text, isBracket c = false) :
    nesting.after ('(' :: (text ++ [')'])) = nesting := by
  have brackets : '(' ≠ quoteMark ∧ ')' ≠ quoteMark := by decide
  have inner : (nesting.step '(').after text = nesting.step '(' := after_of_plain plain
  change ((nesting.step '(').after (text ++ [')'])) = nesting
  rw [after_append, inner]
  obtain ⟨depth, quoted⟩ := nesting
  cases quoted <;> simp [after, step, brackets]

end Nesting

end Inquiry
