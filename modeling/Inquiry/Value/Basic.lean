import Inquiry.Decimal.Binary
import Inquiry.Text.Basic

/-!
# Dynamic values

Vocabulary files, schema descriptions and evaluation records arrive as trees of
dynamic values.  Mappings keep the order of their entries.  Integers and
floating-point numbers are told apart, because their texts differ.

The values are those of JSON, with mappings whose keys need not be texts.  The
dates, sets and bytes of YAML have no constructor: a vocabulary asks for none of
them.
-/

namespace Inquiry

/-- A value of a data file or a request. -/
inductive Value where
  | null
  | bool (truth : Bool)
  | int (number : Int)
  | float (number : Float)
  | text (content : Text)
  | list (items : List Value)
  | mapping (entries : List (Value × Value))
  deriving Inhabited

namespace Value

/-- The kinds of value, as messages name them. -/
def kindName : Value → Text
  | null => "NoneType"
  | bool _ => "bool"
  | int _ => "int"
  | float _ => "float"
  | text _ => "str"
  | list _ => "list"
  | mapping _ => "dict"

/-- Everything counts as present except null, false, zero and what is
empty. -/
def isPresent : Value → Bool
  | null => false
  | bool truth => truth
  | int number => number != 0
  | float number => !(number == 0)
  | text content => !content.isEmpty
  | list items => !items.isEmpty
  | mapping entries => !entries.isEmpty

/-- The value as an exact integer, if it is a number without a fraction.
Truth values count as one and zero. -/
def whole? : Value → Option Int
  | bool truth => some (if truth then 1 else 0)
  | int number => some number
  | float number => (Decimal.Binary.ofFloat number).whole?
  | _ => none

/-- Equality of scalars.  Numbers are compared by their value, so an integer may
equal a floating-point number or a truth value. -/
def sameScalar : Value → Value → Bool
  | null, null => true
  | text left, text right => left == right
  | float left, float right => left == right
  | left, right =>
      match left.whole?, right.whole? with
      | some left, some right => left == right
      | _, _ => false

mutual

/-- Equality of values: numbers by value, lists by position, mappings
regardless of the order of their entries. -/
def same : Value → Value → Bool
  | list items, other =>
      match other with
      | list others => sameItems items others
      | _ => false
  | mapping entries, other =>
      match other with
      | mapping others =>
          entries.length == others.length && sameEntries entries others
      | _ => false
  | scalar, other => sameScalar scalar other

/-- Equality position by position. -/
def sameItems : List Value → List Value → Bool
  | [], [] => true
  | item :: rest, other :: others => same item other && sameItems rest others
  | _, _ => false

/-- Every entry of the first list has an equal one in the second. -/
def sameEntries : List (Value × Value) → List (Value × Value) → Bool
  | [], _ => true
  | (key, value) :: rest, others =>
      others.any (fun other => same key other.1 && same value other.2) &&
        sameEntries rest others

end

/-- Adds an entry; a repeated key keeps its place and takes the new value. -/
def put (key value : Value) : List (Value × Value) → List (Value × Value)
  | [] => [(key, value)]
  | entry :: rest =>
      if entry.1.same key then (entry.1, value) :: rest
      else entry :: put key value rest

/-- The value under a text key of a list of entries. -/
def lookup? (key : Text) : List (Value × Value) → Option Value
  | [] => none
  | (text name, value) :: rest =>
      if name == key then some value else lookup? key rest
  | _ :: rest => lookup? key rest

/-- The text of a value that is one. -/
def text? : Value → Option Text
  | text content => some content
  | _ => none

/-- What iteration over a value yields: the items of a list, the characters of
a text, the keys of a mapping.  Other values cannot be iterated over. -/
def elements? : Value → Option (List Value)
  | list items => some items
  | text content => some (content.map fun c => text [c])
  | mapping entries => some (entries.map (·.1))
  | _ => none

/-- A list of texts. -/
def texts (contents : List Text) : Value :=
  list (contents.map text)

/-- A mapping whose keys are texts. -/
def record (entries : List (Text × Value)) : Value :=
  mapping (entries.map fun entry => (text entry.1, entry.2))

end Value

end Inquiry
