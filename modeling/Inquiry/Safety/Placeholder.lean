import Inquiry.Kind
import Inquiry.Text.Digit

/-!
# Placeholders in statements

Numbered placeholders are a dollar sign with decimal digits of any script after
it; unnumbered ones are question marks.  A placeholder counts wherever it
stands, also inside quoted literals.
-/

namespace Inquiry.Safety

/-- The digits of every numbered placeholder, in order. -/
def numberedMarks : Text → List Text
  | [] => []
  | c :: rest =>
      if c = '$' then
        let digits := rest.takeWhile Text.isDecimal
        if digits.isEmpty then numberedMarks rest else digits :: numberedMarks rest
      else numberedMarks rest

/-- The number of placeholders of a style.  Without a known style the numbered
ones are counted. -/
def countPlaceholders (style : Option ParamStyle) (sql : Text) : Nat :=
  match style with
  | some .qmark => sql.count '?'
  | _ => (numberedMarks sql).length

end Inquiry.Safety
