import Inquiry.Pattern.Escape

/-!
# Parts of an alternative

A repetition mark applies to the part before it.  A position cannot be
repeated, nor can what has a repetition mark already.
-/

namespace Inquiry.Pattern

/-- The options in force at a place of the pattern. -/
structure Options extends Manner where
  manyLines : Bool := false
  dotTakesAll : Bool := false
  verbose : Bool := false
  /-- Nothing may be repeated. -/
  template : Bool := false
  /-- The classes of all scripts are asked for besides those of ASCII. -/
  incompatible : Bool := false

/-- What a repetition mark has to know of a part. -/
inductive PartKind where
  | plain
  | position
  | repetition

/-- A part of an alternative. -/
structure Part where
  fragment : Fragment
  kind : PartKind := .plain

namespace Part

/-- One character of a class. -/
def char (set : CharClass) : Part :=
  { fragment := .char set }

/-- One code point. -/
def point (options : Options) (point : Nat) : Part :=
  .char (.single point options.toManner)

/-- A condition on a position. -/
def position (condition : Anchor) : Part :=
  { fragment := .anchor condition, kind := .position }

end Part

/-- A reference to a group, or an octal character of three digits. -/
def numbered (letter : Char) (options : Options) (cursor : Cursor) :
    Except ParseError (Part × Cursor) := do
  let (second, next) ← cursor.takeSome Char.isDigit 1
  let (third, after) ←
    if isOctal letter && second.any isOctal then next.takeSome isOctal 1
    else .ok ([], next)
  if third.isEmpty then
    let escape : Text := '\\' :: letter :: second
    let index := Text.inBase 10 (letter :: second)
    if next.groups < index then
      next.fail (.badGroupReference index) (escape.length - 1)
    else
      let width ← next.reference index escape.length
      .ok ({ fragment := .echo index options.toManner width }, next)
  else
    let digits := letter :: (second ++ third)
    let point := Text.inBase 8 digits
    if 255 < point then
      after.fail (.octalTooLarge ('\\' :: digits)) (digits.length + 1)
    else .ok (.point options point, after)

/-- The part that an escape stands for. -/
def escapePart (letter : Char) (options : Options) (cursor : Cursor) :
    Except ParseError (Part × Cursor) :=
  match escapedAnchor? options.wide letter, categoryItem? letter with
  | some condition, _ => .ok (.position condition, cursor)
  | none, some item =>
      .ok (.char { items := [item], manner := options.toManner }, cursor)
  | none, none =>
      if letter = '0' then do
        let (digits, next) ← cursor.takeSome isOctal 2
        .ok (.point options (Text.inBase 8 digits), next)
      else if letter.isDigit then numbered letter options cursor
      else do
        let (point, next) ← escapedPoint letter cursor
        .ok (.point options point, next)

/-- The first number of rounds that is too large. -/
def boundLimit : Nat := 4294967295

/-- The bounds of a repetition. -/
structure Bounds where
  least : Nat
  most : Option Nat

/-- A number of rounds.  `width` is the distance to the opening brace. -/
def bound (digits : Text) (width : Nat) (cursor : Cursor) : Except ParseError Nat :=
  if Decimal.digitLimit < digits.length then
    cursor.fail (.boundTooLong digits.length) width
  else
    let rounds := Text.inBase 10 digits
    if boundLimit ≤ rounds then cursor.fail .boundTooLarge width else .ok rounds

/-- The bounds between braces, from after the opening one.  Braces that do not
hold bounds are literal, and there is no result. -/
def braces? (cursor : Cursor) : Except ParseError (Option (Bounds × Cursor)) := do
  if cursor.token == ['\x7d'] then .ok none
  else
    let (low, next) ← cursor.takeSome Char.isDigit (cursor.rest.length + 1)
    let (high, next) ←
      match ← next.passes? ',' with
      | some next => next.takeSome Char.isDigit (next.rest.length + 1)
      | none => .ok (low, next)
    match ← next.passes? '\x7d' with
    | none => .ok none
    | some next =>
        let width := next.position - cursor.position
        let least ← bound low width next
        if high.isEmpty then .ok (some ({ least, most := none }, next))
        else
          let most ← bound high width next
          if most < least then next.fail .bounds width
          else .ok (some ({ least, most := some most }, next))

/-- How a repetition goes on: as often as possible, as rarely as possible, or as
often as possible without a way back. -/
inductive Urge where
  | greedy
  | lazy
  | possessive

/-- What messages call a repetition. -/
def Urge.operator : Urge → Text
  | greedy => "MAX_REPEAT"
  | lazy => "MIN_REPEAT"
  | possessive => "POSSESSIVE_REPEAT"

/-- A body that is repeated.  Without a way back, neither the rounds nor the body
within a round are tried otherwise. -/
def Urge.repeated (urge : Urge) (body : Pattern) (bounds : Bounds) : Pattern :=
  match urge with
  | greedy => .repeated body bounds.least bounds.most false
  | lazy => .repeated body bounds.least bounds.most true
  | possessive => .atomic (.repeated (.atomic body) bounds.least bounds.most false)

/-- A fragment that is repeated. -/
def Fragment.repeated (body : Fragment) (bounds : Bounds) (urge : Urge)
    (template : Bool) : Fragment :=
  { pattern := urge.repeated body.pattern bounds
    width := body.width.times bounds.least bounds.most
    refusal := if template then some (.templateRepeat urge.operator) else body.refusal }

/-- The urge that a mark after the bounds of a repetition asks for. -/
def urgeAt (cursor : Cursor) : Except ParseError (Urge × Cursor) := do
  match ← cursor.passes? '?' with
  | some next => .ok (.lazy, next)
  | none =>
      match ← cursor.passes? '+' with
      | some next => .ok (.possessive, next)
      | none => .ok (.greedy, cursor)

/-- Repeats the last part.  `here` is the position after the first character of
the repetition mark. -/
def repeatLast (options : Options) (parts : List Part) (bounds : Bounds) (here : Nat)
    (cursor : Cursor) : Except ParseError (List Part × Cursor) := do
  let width := cursor.position - here + 1
  match parts with
  | [] => cursor.fail .nothingToRepeat width
  | { kind := .position, .. } :: _ => cursor.fail .nothingToRepeat width
  | { kind := .repetition, .. } :: _ => cursor.fail .multipleRepeat width
  | { fragment := body, kind := .plain } :: rest =>
      let (urge, next) ← urgeAt cursor
      let fragment := body.repeated bounds urge options.template
      .ok ({ fragment, kind := .repetition } :: rest, next)

end Inquiry.Pattern
