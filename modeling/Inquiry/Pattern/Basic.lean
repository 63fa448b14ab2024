import Inquiry.Text.Blank
import Inquiry.Text.Digit
import Inquiry.Text.Variant
import Inquiry.Text.Word

/-!
# Limit patterns

A limit pattern is a regular expression that captures the number of rows a
question asks for.  The classes of digits, blanks and word characters are those
of ASCII, and letters differ by case, unless a part of the pattern asks
otherwise.

Options leave no trace in the tree: each character class, each anchor and each
reference to a group records how it is to be read.
-/

namespace Inquiry

namespace Pattern

/-- How characters are compared. -/
structure Manner where
  /-- A letter stands for both of its cases. -/
  foldsCase : Bool := false
  /-- Classes and letters are those of all scripts, not those of ASCII alone. -/
  wide : Bool := false
  deriving Repr, DecidableEq

/-- The code points that a character stands for. -/
def Manner.variants (manner : Manner) (c : Char) : List Nat :=
  if !manner.foldsCase then [c.toNat]
  else if manner.wide then Text.caseVariants c.toNat
  else [c.toLower.toNat, c.toUpper.toNat]

/-- What is compared of a character when a captured text is looked for again. -/
def Manner.compared (manner : Manner) (c : Char) : Nat :=
  if !manner.foldsCase then c.toNat
  else if manner.wide then Text.smallPoint c.toNat
  else c.toLower.toNat

/-- A named class of characters. -/
inductive Category where
  | digit
  | blank
  | word
  deriving Repr, DecidableEq

/-- Membership in a named class of ASCII, or in the wide one of all scripts. -/
def Category.holds (wide : Bool) : Category → Char → Bool
  | digit, c => if wide then Text.isDecimal c else c.isDigit
  | blank, c => if wide then Text.isBlank c else Text.isAsciiBlank c
  | word, c => if wide then Text.isWord c else c.isAlphanum || c == '_'

/-- A part of a character class. -/
inductive ClassItem where
  /-- The code points from `first` to `last`; surrogates may be among them. -/
  | span (first last : Nat)
  /-- Every character of a named class. -/
  | within (category : Category)
  /-- Every character outside a named class. -/
  | outside (category : Category)
  deriving Repr, DecidableEq

/-- Membership in a part of a class. -/
def ClassItem.holds (manner : Manner) : ClassItem → Char → Bool
  | span first last, c =>
      (manner.variants c).any fun point => first ≤ point && point ≤ last
  | within category, c => category.holds manner.wide c
  | outside category, c => !category.holds manner.wide c

/-- A set of characters: the listed parts, or everything else. -/
structure CharClass where
  items : List ClassItem
  negated : Bool := false
  manner : Manner := {}
  deriving Repr, DecidableEq

/-- Membership in a character class. -/
def CharClass.holds (set : CharClass) (c : Char) : Bool :=
  set.items.any (·.holds set.manner c) != set.negated

/-- The class of one code point. -/
def CharClass.single (point : Nat) (manner : Manner := {}) : CharClass :=
  { items := [.span point point], manner }

/-- A condition on a position between characters. -/
inductive Anchor where
  | textStart
  | textEnd
  /-- The end of the text, or a line feed that ends it. -/
  | finalEnd
  | lineStart
  | lineEnd
  | wordBoundary (wide : Bool)
  | insideWord (wide : Bool)
  deriving Repr, DecidableEq

end Pattern

/-- A regular expression. -/
inductive Pattern where
  | empty
  | char (set : Pattern.CharClass)
  | anchor (condition : Pattern.Anchor)
  | sequence (first second : Pattern)
  | choice (first second : Pattern)
  | group (index : Nat) (body : Pattern)
  /-- The body at least `least` and at most `most` times, as often as possible
  unless `lazy`. -/
  | repeated (body : Pattern) (least : Nat) (most : Option Nat) (lazy : Bool)
  /-- The text that a group captured. -/
  | echo (index : Nat) (manner : Pattern.Manner)
  /-- One pattern if a group has captured a text, and another one if not. -/
  | given (index : Nat) (yes no : Pattern)
  /-- The first match of the body; no other one is tried. -/
  | atomic (body : Pattern)
  /-- Whether the body matches from `back` characters before the position. -/
  | look (back : Nat) (negated : Bool) (body : Pattern)
  deriving Repr, DecidableEq

namespace Pattern

/-- The patterns one after another. -/
def inOrder : List Pattern → Pattern
  | [] => empty
  | [pattern] => pattern
  | pattern :: rest => sequence pattern (inOrder rest)

/-- The patterns as alternatives, the first preferred. -/
def oneOf : List Pattern → Pattern
  | [] => empty
  | [pattern] => pattern
  | pattern :: rest => choice pattern (oneOf rest)

/-- The number of capturing groups. -/
def groupCount : Pattern → Nat
  | empty | char _ | anchor _ | echo _ _ => 0
  | sequence first second | choice first second | given _ first second =>
      first.groupCount + second.groupCount
  | group _ body => body.groupCount + 1
  | repeated body _ _ _ | atomic body | look _ _ body => body.groupCount

end Pattern

end Inquiry
