import Inquiry.Tag
import Inquiry.Value.Display

/-!
# Validation

A record is read from a dynamic mapping field by field.  Every field is checked
even after one has failed, so that all issues of a record are reported at once,
in the order of its fields.

The records are declared to a validation library; what it is relied on to do is
written out here and in `Inquiry.Validation.Scalar`.  It looks a field up under its
name, ignores entries that no field asks for, takes the default of a field that
is absent without checking it, converts nothing but integers and truth values,
passes a value through the further conditions of its field in the order of their
declaration, and stops at the first that fails.
-/

namespace Inquiry

namespace Validation

/-- One step on the way to a faulty part of a record. -/
inductive Step where
  | field (name : Text)
  | item (position : Nat)
  deriving Repr, DecidableEq

/-- What is wrong with a part of a record. -/
inductive Cause where
  | missing
  | notText
  | notList
  | notOneOf (tags : List Text)
  | notRecord (name : Text)
  | fractional
  | notFinite
  | unreadableInteger
  | oversizedInteger
  | notInteger
  | negative
  | unreadableTruth
  | notTruth
  | emptyText
  | longText (most : Nat)
  | blankQuestion
  deriving Repr, DecidableEq

/-- The alternatives as a message names them: quoted, with "or" before the
last. -/
def alternatives : List Text → Text
  | [] => []
  | [tag] => Text.quoted tag
  | [first, last] => Text.quoted first ++ " or " ++ Text.quoted last
  | tag :: rest => Text.quoted tag ++ ", " ++ alternatives rest

/-- The short name of a cause. -/
def Cause.code : Cause → Text
  | missing => "missing"
  | notText => "string_type"
  | notList => "list_type"
  | notOneOf _ => "literal_error"
  | notRecord _ => "model_type"
  | fractional => "int_from_float"
  | notFinite => "finite_number"
  | unreadableInteger => "int_parsing"
  | oversizedInteger => "int_parsing_size"
  | notInteger => "int_type"
  | negative => "greater_than_equal"
  | unreadableTruth => "bool_parsing"
  | notTruth => "bool_type"
  | emptyText => "string_too_short"
  | longText _ => "string_too_long"
  | blankQuestion => "value_error"

/-- The wording of a cause. -/
def Cause.message : Cause → Text
  | missing => "Field required"
  | notText => "Input should be a valid string"
  | notList => "Input should be a valid list"
  | notOneOf tags => "Input should be " ++ alternatives tags
  | notRecord name =>
      "Input should be a valid dictionary or instance of " ++ name
  | fractional =>
      "Input should be a valid integer, got a number with a fractional part"
  | notFinite => "Input should be a finite number"
  | unreadableInteger =>
      "Input should be a valid integer, unable to parse string as an integer"
  | oversizedInteger =>
      "Unable to parse input string as an integer, exceeded maximum size"
  | notInteger => "Input should be a valid integer"
  | negative => "Input should be greater than or equal to 0"
  | unreadableTruth =>
      "Input should be a valid boolean, unable to interpret input"
  | notTruth => "Input should be a valid boolean"
  | emptyText => "String should have at least 1 character"
  | longText most =>
      "String should have at most " ++ Decimal.ofNat most ++ " characters"
  | blankQuestion => "Value error, question must not be blank"

end Validation

/-- A faulty part of a record: where it is and what is wrong with it. -/
structure Issue where
  path : List Validation.Step
  cause : Validation.Cause
  deriving Repr, DecidableEq

/-- A result, or every issue that stands in its way. -/
abbrev Checked (α : Type) := Except (List Issue) α

namespace Checked

/-- A single issue at the place itself. -/
def fail {α : Type} (cause : Validation.Cause) : Checked α :=
  .error [{ path := [], cause }]

/-- A result to apply to the parts of a record, one after another. -/
def start {α : Type} (build : α) : Checked α :=
  .ok build

/-- Applies a result to a further one and keeps the issues of both. -/
def apply {α β : Type} (build : Checked (α → β)) (part : Checked α) : Checked β :=
  match build, part with
  | .ok build, .ok part => .ok (build part)
  | .error issues, .ok _ => .error issues
  | .ok _, .error issues => .error issues
  | .error issues, .error more => .error (issues ++ more)

/-- Places the issues one step further down. -/
def under {α : Type} (step : Validation.Step) (part : Checked α) : Checked α :=
  part.mapError fun issues =>
    issues.map fun issue => { issue with path := step :: issue.path }

end Checked

namespace Validation

/-- Reads a field, or takes its default if it is absent. -/
def field {α : Type} (entries : List (Value × Value)) (name : Text)
    (default? : Option α) (read : Value → Checked α) : Checked α :=
  match Value.lookup? name entries, default? with
  | some value, _ => (read value).under (.field name)
  | none, some default => .ok default
  | none, none => (Checked.fail .missing).under (.field name)

/-- Reads a value that may be null. -/
def nullable {α : Type} (read : Value → Checked α) : Value → Checked (Option α)
  | .null => .ok none
  | value => (read value).map some

/-- Reads a text. -/
def text : Value → Checked Text
  | .text content => .ok content
  | _ => .fail .notText

/-- Reads texts, numbering them from the given position. -/
def textsFrom : Nat → List Value → Checked (List Text)
  | _, [] => .ok []
  | position, value :: rest =>
      Checked.apply (((text value).under (.item position)).map List.cons)
        (textsFrom (position + 1) rest)

/-- Reads a list of texts. -/
def texts : Value → Checked (List Text)
  | .list items => textsFrom 0 items
  | _ => .fail .notList

/-- Reads a member of a finite kind by its tag. -/
def tagged (α : Type) [Tagged α] (value : Value) : Checked α :=
  match value.text?.bind Tagged.ofTag? with
  | some member => .ok member
  | none => .fail (.notOneOf (Tagged.tags α))

/-- Reads a nested record, which messages call by a name. -/
def nested {α : Type} (name : Text) (read : List (Value × Value) → Checked α) :
    Value → Checked α
  | .mapping entries => read entries
  | _ => .fail (.notRecord name)

end Validation

end Inquiry
