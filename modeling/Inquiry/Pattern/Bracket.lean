import Inquiry.Pattern.Escape

/-!
# Classes in brackets

The members of a class, and the ranges between two of them.
-/

namespace Inquiry.Pattern

/-- A member of a class: one code point, or a named class. -/
def classEscape (letter : Char) (cursor : Cursor) :
    Except ParseError ((Nat ⊕ ClassItem) × Cursor) :=
  if letter = 'b' then .ok (.inl '\x08'.toNat, cursor)
  else
    match categoryItem? letter with
    | some item => .ok (.inr item, cursor)
    | none =>
        if isOctal letter then do
          let (digits, next) ← cursor.takeSome isOctal 2
          let escape : Text := '\\' :: letter :: digits
          let point := Text.inBase 8 (letter :: digits)
          if 255 < point then next.fail (.octalTooLarge escape) escape.length
          else .ok (.inl point, next)
        else do
          let (point, next) ← escapedPoint letter cursor
          .ok (.inl point, next)

/-- One member of a class from its token. -/
def classMember (token : Text) (cursor : Cursor) :
    Except ParseError ((Nat ⊕ ClassItem) × Cursor) :=
  match token with
  | ['\\', letter] => classEscape letter cursor
  | c :: _ => .ok (.inl c.toNat, cursor)
  | [] => cursor.fail .unterminatedClass

/-- A member as a part of a class. -/
def memberItem : Nat ⊕ ClassItem → ClassItem
  | .inl point => .span point point
  | .inr item => item

/-- The parts of a class up to its closing bracket.  `start` is the position of
the opening one; a bracket in first place is an ordinary member. -/
def classItems (start : Nat) : (fuel : Nat) → List ClassItem → Cursor →
    Except ParseError (List ClassItem × Cursor)
  | 0, _, cursor => cursor.fail .unterminatedClass (cursor.position - start)
  | fuel + 1, items, cursor => do
      let (token, next) ← cursor.take
      if token.isEmpty then next.fail .unterminatedClass (next.position - start)
      else if token == [']'] && !items.isEmpty then .ok (items.reverse, next)
      else
        let (member, next) ← classMember token next
        match ← next.passes? '-' with
        | none => classItems start fuel (memberItem member :: items) next
        | some next =>
            let (bound, next) ← next.take
            if bound.isEmpty then
              next.fail .unterminatedClass (next.position - start)
            else if bound == [']'] then
              .ok ((.span '-'.toNat '-'.toNat :: memberItem member :: items).reverse, next)
            else
              let (last, next) ← classMember bound next
              let distance := token.length + 1 + bound.length
              match member, last with
              | .inl first, .inl last =>
                  if last < first then
                    next.fail (.badRange token bound) distance
                  else classItems start fuel (.span first last :: items) next
              | _, _ => next.fail (.badRange token bound) distance

end Inquiry.Pattern
