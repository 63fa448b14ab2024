import Inquiry.Pattern.Basic
import Inquiry.Pattern.ParseError

/-!
# What is known of a part of a pattern

Besides the part itself the reader keeps how many characters it can match, which
decides whether it can be looked for behind a position, and the first reason why
it cannot be used, although it is well formed.
-/

namespace Inquiry.Pattern

/-- The fewest and the most characters that a pattern matches; nothing where
there is no bound. -/
structure Width where
  least : Nat
  most : Option Nat
  deriving Repr, DecidableEq

namespace Width

/-- The width of what matches exactly that many characters. -/
def exact (count : Nat) : Width :=
  ⟨count, some count⟩

/-- The width of one part after another. -/
def plus (first second : Width) : Width :=
  { least := first.least + second.least
    most := first.most.bind fun most => second.most.map (most + ·) }

/-- The width of one part or another. -/
def either (first second : Width) : Width :=
  { least := min first.least second.least
    most := first.most.bind fun most => second.most.map (max most) }

/-- The width of a part that is repeated.  Nothing as often as one likes is
nothing still. -/
def times (width : Width) (least : Nat) (most : Option Nat) : Width :=
  { least := width.least * least
    most :=
      if width.most = some 0 ∨ most = some 0 then some 0
      else width.most.bind fun each => most.map (each * ·) }

end Width

/-- A part of a pattern with what is known of it. -/
structure Fragment where
  pattern : Pattern
  width : Width
  /-- Why no pattern with this part can be used, as far as that is so. -/
  refusal : Option Cause := none

namespace Fragment

/-- One character of a class. -/
def char (set : CharClass) : Fragment :=
  { pattern := .char set, width := .exact 1 }

/-- A condition on a position. -/
def anchor (condition : Anchor) : Fragment :=
  { pattern := .anchor condition, width := .exact 0 }

/-- The fragments one after another. -/
def inOrder (fragments : List Fragment) : Fragment :=
  { pattern := Pattern.inOrder (fragments.map (·.pattern))
    width := fragments.foldr (fun first rest => first.width.plus rest) (.exact 0)
    refusal := fragments.findSome? (·.refusal) }

/-- The first fragment and the others as alternatives. -/
def oneOf (first : Fragment) (others : List Fragment) : Fragment :=
  { pattern := Pattern.oneOf ((first :: others).map (·.pattern))
    width := others.foldl (fun width other => width.either other.width) first.width
    refusal := (first :: others).findSome? (·.refusal) }

/-- A group that captures what its body matches. -/
def group (index : Nat) (body : Fragment) : Fragment :=
  { body with pattern := .group index body.pattern }

/-- A body whose first match is the only one. -/
def atomic (body : Fragment) : Fragment :=
  { body with pattern := .atomic body.pattern }

/-- A text of a given width that a group captured. -/
def echo (index : Nat) (manner : Manner) (width : Width) : Fragment :=
  { pattern := .echo index manner, width }

/-- One fragment or another, by whether a group has captured a text. -/
def given (index : Nat) (yes no : Fragment) : Fragment :=
  { pattern := .given index yes.pattern no.pattern
    width := yes.width.either no.width
    refusal := yes.refusal.orElse fun _ => no.refusal }

/-- A look at what follows a position. -/
def ahead (negated : Bool) (body : Fragment) : Fragment :=
  { pattern := .look 0 negated body.pattern
    width := .exact 0
    refusal := body.refusal }

/-- The first number of characters that is too large to go back. -/
def backLimit : Nat := 4294967296

/-- Why a body of a width cannot be looked for behind a position. -/
def lookbehindRefusal? (width : Width) : Option Cause :=
  if backLimit ≤ width.least then some .longLookbehind
  else if width.most ≠ some width.least then some .variableLookbehind
  else none

/-- A look at what stands before a position. -/
def behind (negated : Bool) (body : Fragment) : Fragment :=
  { pattern := .look body.width.least negated body.pattern
    width := .exact 0
    refusal := (lookbehindRefusal? body.width).orElse fun _ => body.refusal }

end Fragment

end Inquiry.Pattern
