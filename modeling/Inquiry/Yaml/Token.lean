import Inquiry.Yaml.Cursor

/-!
# YAML tokens

A YAML text is a sequence of tokens.  The structure that indentation implies is
made explicit by tokens of its own, which open and close blocks and mark keys.
-/

namespace Inquiry.Yaml

/-- A token. -/
inductive Token where
  /-- A directive that states the version of the language. -/
  | version (major : Nat)
  /-- A directive that gives a handle to the beginning of tags. -/
  | handle (name beginning : Text)
  /-- A directive that is ignored. -/
  | otherDirective
  | documentStart
  | documentEnd
  | blockSequenceStart
  | blockMappingStart
  | blockEnd
  | flowSequenceStart
  | flowSequenceEnd
  | flowMappingStart
  | flowMappingEnd
  | flowEntry
  | blockEntry
  | key
  | value
  /-- Refers to the node that has an anchor. -/
  | reference (name : Text)
  | anchor (name : Text)
  /-- A tag; without a handle it is written out in full. -/
  | tag (handle : Option Text) (suffix : Text)
  /-- A scalar.  What a plain one means depends on its content. -/
  | scalar (plain : Bool) (content : Text)
  deriving Repr, DecidableEq

end Inquiry.Yaml
