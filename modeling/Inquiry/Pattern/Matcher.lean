import Inquiry.Pattern.Basic

/-!
# Matching

A pattern is matched from a spot in the text toward its end, and hands each spot
it can reach to the rest of the match, the preferred one first.  The first
success is the match.

A repetition stops when a round would start where the previous one started, so
a body that matches the empty text is not repeated for ever.

A condition on a group that is still open asks for what the group captured in an
earlier round.
-/

namespace Inquiry.Pattern

/-- A position in a text, with what the groups have captured on the way. -/
structure Spot where
  /-- The characters before the position, the nearest one first. -/
  before : Text
  rest : Text
  captures : List (Nat × Text)
  deriving Repr, DecidableEq

namespace Spot

/-- The last text captured by a group. -/
def capture? (spot : Spot) (index : Nat) : Option Text :=
  spot.captures.lookup index

/-- The spot behind a text that follows, as characters are compared. -/
def passOver? (manner : Manner) : Text → Spot → Option Spot
  | [], spot => some spot
  | c :: taken, spot =>
      match spot.rest with
      | [] => none
      | d :: rest =>
          if manner.compared c = manner.compared d then
            passOver? manner taken { spot with before := d :: spot.before, rest }
          else none

/-- The spot some characters back. -/
def back? : Nat → Spot → Option Spot
  | 0, spot => some spot
  | count + 1, spot =>
      match spot.before with
      | [] => none
      | c :: before => back? count { spot with before, rest := c :: spot.rest }

end Spot

/-- A word character. -/
def isWordAt (wide : Bool) : Option Char → Bool
  | some c => Category.word.holds wide c
  | none => false

/-- Whether a condition on positions holds. -/
def Anchor.holds (anchor : Anchor) (spot : Spot) : Bool :=
  let previous := spot.before.head?
  let following := spot.rest.head?
  match anchor with
  | textStart => spot.before.isEmpty
  | textEnd => spot.rest.isEmpty
  | finalEnd => spot.rest.isEmpty || spot.rest == ['\n']
  | lineStart => spot.before.isEmpty || previous == some '\n'
  | lineEnd => spot.rest.isEmpty || following == some '\n'
  | wordBoundary wide => isWordAt wide previous != isWordAt wide following
  | insideWord wide =>
      (previous.isSome || following.isSome) &&
        isWordAt wide previous == isWordAt wide following

/-- What a part of a match hands its spots to. -/
abbrev Onward := Spot → Option Spot

/-- The body a fixed number of times. -/
def times (body : Spot → Onward → Option Spot) :
    Nat → Spot → Onward → Option Spot
  | 0, spot, onward => onward spot
  | count + 1, spot, onward =>
      body spot fun next => times body count next onward

/-- The body up to `most` times more.  `last` is the length of the text after
the spot where the previous round started; `fuel` bounds the rounds. -/
def more (body : Spot → Onward → Option Spot) (lazy : Bool) :
    (fuel : Nat) → (most : Option Nat) → (last : Option Nat) →
      Spot → Onward → Option Spot
  | 0, _, _, spot, onward => onward spot
  | fuel + 1, most, last, spot, onward =>
      let again (_ : Unit) : Option Spot :=
        if most = some 0 ∨ last = some spot.rest.length then none
        else
          body spot fun next =>
            more body lazy fuel (most.map (· - 1)) (some spot.rest.length) next onward
      if lazy then (onward spot).orElse again
      else (again ()).orElse fun _ => onward spot

/-- Matches a pattern from a spot. -/
def run : Pattern → Spot → Onward → Option Spot
  | empty, spot, onward => onward spot
  | char set, spot, onward =>
      match spot.rest with
      | [] => none
      | c :: rest =>
          if set.holds c then onward { spot with before := c :: spot.before, rest }
          else none
  | anchor condition, spot, onward =>
      if condition.holds spot then onward spot else none
  | sequence first second, spot, onward =>
      first.run spot fun next => second.run next onward
  | choice first second, spot, onward =>
      (first.run spot onward).orElse fun _ => second.run spot onward
  | group index body, spot, onward =>
      body.run spot fun next =>
        let taken := spot.rest.take (spot.rest.length - next.rest.length)
        onward { next with captures := (index, taken) :: next.captures }
  | repeated body least most lazy, spot, onward =>
      times body.run least spot fun next =>
        more body.run lazy (next.rest.length + 2) (most.map (· - least)) none
          next onward
  | echo index manner, spot, onward =>
      ((spot.capture? index).bind fun taken => spot.passOver? manner taken).bind onward
  | given index yes no, spot, onward =>
      if (spot.capture? index).isSome then yes.run spot onward else no.run spot onward
  | atomic body, spot, onward => (body.run spot some).bind onward
  | look back negated body, spot, onward =>
      match (spot.back? back).bind fun start => body.run start some with
      | some found =>
          if negated then none else onward { spot with captures := found.captures }
      | none => if negated then onward spot else none

/-- The first match that starts at the spot or after it.  The characters before
the spot are given nearest first. -/
def searchFrom (pattern : Pattern) (before : Text) : Text → Option Spot
  | [] => pattern.run { before, rest := [], captures := [] } some
  | c :: rest =>
      (pattern.run { before, rest := c :: rest, captures := [] } some).orElse
        fun _ => searchFrom pattern (c :: before) rest

/-- The first match in a text. -/
def search (pattern : Pattern) (text : Text) : Option Spot :=
  searchFrom pattern [] text

end Inquiry.Pattern
