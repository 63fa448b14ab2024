import Inquiry.Value.Display

/-!
# Writing JSON

Values are written on one line.  Controls, the delete character and the line
separators are escaped, so that no written text holds a line break.
-/

namespace Inquiry.Json

/-- One character as it stands inside a quoted text. -/
def escapeChar (c : Char) : Text :=
  if c = '\x22' then "\\\""
  else if c = '\\' then "\\\\"
  else if c.toNat < 32 ∨ c.toNat = 0x7F ∨ c.toNat = 0x85 ∨ c.toNat = 0x2028 ∨
      c.toNat = 0x2029 then
    "\\u" ++ Text.hexDigits 4 c.toNat
  else [c]

/-- A quoted text. -/
def quote (content : Text) : Text :=
  '\x22' :: content.flatMap escapeChar ++ ['\x22']

/-- A floating-point number.  The words for what is not finite are those that
are read. -/
def renderFloat (number : Float) : Text :=
  match Decimal.Binary.ofFloat number with
  | .finite _ _ _ => Decimal.ofFloat number
  | .infinite negative => if negative then "-Infinity" else "Infinity"
  | .undefined => "NaN"

/-- The values that are one word. -/
def word : Value → Text
  | .bool truth => if truth then "true" else "false"
  | .int number => Decimal.ofInt number
  | .float number => renderFloat number
  | _ => "null"

/-- A value as a key: keys are always texts. -/
def keyText : Value → Text
  | .text content => content
  | other => word other

mutual

/-- The value on one line. -/
def render : Value → Text
  | .text content => quote content
  | .list items => "[" ++ Text.join ", " (renderItems items) ++ "]"
  | .mapping entries =>
      "\x7b" ++ Text.join ", " (renderEntries entries) ++ "\x7d"
  | other => word other

/-- The items of a list, each on its own. -/
def renderItems : List Value → List Text
  | [] => []
  | item :: rest => render item :: renderItems rest

/-- The entries of a mapping, each on its own. -/
def renderEntries : List (Value × Value) → List Text
  | [] => []
  | (key, value) :: rest =>
      (quote (keyText key) ++ ": " ++ render value) :: renderEntries rest

end

end Inquiry.Json
