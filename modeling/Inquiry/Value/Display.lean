import Inquiry.Value.Basic
import Inquiry.Decimal.Shortest
import Inquiry.Text.Quoted

/-!
# Values as text

The literal of a value quotes its texts.  The text of a value is its literal too,
except that texts stand for themselves.  A value has neither if an integer stands
anywhere in it that has more digits than are written.
-/

namespace Inquiry.Value

mutual

/-- The value as it stands inside messages. -/
def literal? : Value → Option Text
  | null => some "None"
  | bool truth => some (if truth then "True" else "False")
  | int number => Decimal.writeInt? number
  | float number => some (Decimal.ofFloat number)
  | text content => some (Text.quoted content)
  | list items =>
      (literals? items).map fun written => "[" ++ Text.join ", " written ++ "]"
  | mapping entries =>
      (entryLiterals? entries).map fun written =>
        "\x7b" ++ Text.join ", " written ++ "\x7d"

/-- The literals of a list of values. -/
def literals? : List Value → Option (List Text)
  | [] => some []
  | item :: rest => do
      let first ← literal? item
      return first :: (← literals? rest)

/-- The literals of the entries of a mapping. -/
def entryLiterals? : List (Value × Value) → Option (List Text)
  | [] => some []
  | (key, value) :: rest => do
      let name ← literal? key
      let first ← literal? value
      return (name ++ ": " ++ first) :: (← entryLiterals? rest)

end

/-- The text of a value: texts stand for themselves. -/
def written? : Value → Option Text
  | text content => some content
  | other => literal? other

end Inquiry.Value
