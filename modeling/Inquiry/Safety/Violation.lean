import Inquiry.Text.Basic
import Inquiry.Decimal.Integer

/-!
# Violations

The reasons for which a statement is refused before it is handed out.
-/

namespace Inquiry.Safety

/-- A reason to refuse a statement. -/
inductive Violation where
  | notSelect
  | separator
  | selectStar
  | dangerousKeyword (keyword : Text)
  | inlineComment
  | blockComment
  | foreignTable (name : Text)
  | limitNotLiteral (given : Text)
  | limitTooLarge (given : Text) (maximum : Nat)
  | placeholderCount (placeholders parameters : Nat)
  | placeholderOrder (numbers : List Nat)
  | parameterNotText (position : Nat) (kindName : Text)
  deriving Repr, DecidableEq

/-- The wording of a violation. -/
def Violation.message : Violation → Text
  | notSelect => "SQL must be a SELECT statement."
  | separator => "Statement separators (';') are not allowed."
  | selectStar => "SELECT * is not allowed. Specify explicit columns."
  | dangerousKeyword keyword => "Dangerous keyword detected: '" ++ keyword ++ "'."
  | inlineComment => "Inline comments (--) are not allowed."
  | blockComment => "Block comments (/* */) are not allowed."
  | foreignTable name =>
      "Table '" ++ name ++ "' is not part of the schema contract."
  | limitNotLiteral given =>
      "LIMIT must be a plain integer literal, got '" ++ given ++ "'."
  | limitTooLarge given maximum =>
      "LIMIT " ++ given ++ " exceeds maximum allowed (" ++
        Decimal.ofNat maximum ++ ")."
  | placeholderCount placeholders parameters =>
      "Placeholder count (" ++ Decimal.ofNat placeholders ++
        ") does not match parameter count (" ++ Decimal.ofNat parameters ++ ")."
  | placeholderOrder numbers =>
      "Placeholders are not numbered 1..n in order: [" ++
        Text.join ", " (numbers.map Decimal.ofNat) ++ "]."
  | parameterNotText position kindName =>
      "Parameter " ++ Decimal.ofNat position ++ " must be a string, got " ++
        kindName ++ "."

end Inquiry.Safety
