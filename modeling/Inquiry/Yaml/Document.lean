import Inquiry.Yaml.Node
import Inquiry.Yaml.Scalar
import Inquiry.Yaml.Tokens

/-!
# Reading YAML

A text holds at most one document; an empty text denotes null.  Keys are
scalars.  A repeated key keeps its first place and its last value, and the
entries that a mapping takes over from others stand before its own.

Of the tags, those of the scalars and collections of the language itself are
known.
-/

namespace Inquiry.Yaml

/-- What a scalar is taken for: what its tag says, or what its content says if
it is plain. -/
def scalarKind? (tag : Option Text) (plain : Bool) (content : Text) :
    Option ScalarKind :=
  match tag with
  | some tag => ScalarKind.ofTag? tag
  | none => some (if plain then .ofPlain content else .text)

/-- The tag allows a collection of a kind. -/
def allowsKind (kind : Text) (tag : Option Text) : Bool :=
  tag.all (· == ScalarKind.standard ++ kind)

/-- What a scalar used as a key is taken for. -/
def keyKind? : Node → Option ScalarKind
  | .scalar tag plain content => scalarKind? tag plain content
  | _ => none

/-- The value of a key, which is a scalar. -/
def key : Node → Except ReadError Value
  | .scalar tag plain content =>
      match scalarKind? tag plain content with
      | some .default => .ok (.text content)
      | some kind => kind.read content
      | none => .error .malformed
  | _ => .error .malformed

/-- The entries of a mapping: those taken over, then its own. -/
structure Entries where
  taken : List (Value × Value) := []
  own : List (Value × Value) := []

/-- All entries in order. -/
def Entries.all (entries : Entries) : List (Value × Value) :=
  entries.taken ++ entries.own

mutual

/-- The value of a node. -/
def value : Node → Except ReadError Value
  | .scalar tag plain content =>
      match scalarKind? tag plain content with
      | some kind => kind.read content
      | none => .error .malformed
  | .sequence tag items =>
      if allowsKind "seq" tag then (values items).map .list else .error .malformed
  | .mapping tag pairs =>
      if allowsKind "map" tag then do
        let found ← entries pairs
        return .mapping
          (found.all.foldl (fun entries entry => Value.put entry.1 entry.2 entries) [])
      else .error .malformed

/-- The values of nodes in order. -/
def values : List Node → Except ReadError (List Value)
  | [] => .ok []
  | node :: rest => do
      let first ← value node
      return first :: (← values rest)

/-- The entries that the pairs of a mapping denote. -/
def entries : List (Node × Node) → Except ReadError Entries
  | [] => .ok {}
  | (name, node) :: rest => do
      if keyKind? name = some .merge then
        let more ← takenFrom node
        let found ← entries rest
        return { found with taken := more ++ found.taken }
      else
        let name ← key name
        let first ← value node
        let found ← entries rest
        return { found with own := (name, first) :: found.own }

/-- The entries that are taken over from a mapping, or from several of them. -/
def takenFrom : Node → Except ReadError (List (Value × Value))
  | .mapping _ pairs => (entries pairs).map (·.all)
  | .sequence _ items => takenFromEach items
  | .scalar _ _ _ => .error .malformed

/-- The entries of several mappings.  Those of a later one stand first, so that
those of an earlier one count. -/
def takenFromEach : List Node → Except ReadError (List (Value × Value))
  | [] => .ok []
  | .mapping _ pairs :: rest => do
      let first ← entries pairs
      return (← takenFromEach rest) ++ first.all
  | _ => .error .malformed

end

/-- Reads a text that holds at most one document. -/
def parse (text : Text) : Except ReadError Value :=
  match (tokens? text).bind document? with
  | none => .error .malformed
  | some none => .ok .null
  | some (some root) => value root

end Inquiry.Yaml
