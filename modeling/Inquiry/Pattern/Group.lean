import Inquiry.Pattern.Part
import Inquiry.Text.Name

/-!
# Groups

What stands between the opening parenthesis of a group and its body: a name,
options, the mark of a look around, of a condition or of a group without a way
back, or nothing.  References to groups by name and comments have no body.
-/

namespace Inquiry.Pattern

/-- Passes over a comment, from after its mark. -/
def comment (start : Nat) : (fuel : Nat) → Cursor → Except ParseError Cursor
  | 0, cursor => cursor.fail .unterminatedComment (cursor.position - start)
  | fuel + 1, cursor => do
      let (token, next) ← cursor.take
      if token.isEmpty then
        next.fail .unterminatedComment (next.position - start)
      else if token == [')'] then .ok next
      else comment start fuel next

/-! ## Options -/

/-- The letters of the options. -/
def isOption (c : Char) : Bool :=
  ("iLmsxatu" : Text).contains c

/-- Switches an option. -/
def Options.set (options : Options) (letter : Char) (on : Bool) : Options :=
  match letter with
  | 'i' => { options with foldsCase := on }
  | 'm' => { options with manyLines := on }
  | 's' => { options with dotTakesAll := on }
  | 'x' => { options with verbose := on }
  | 't' => { options with template := on }
  | 'u' => { options with wide := true }
  | 'a' => { options with wide := false }
  | _ => options

/-- Switches options for a part of the pattern. -/
def Options.within (options : Options) (on off : Text) : Options :=
  off.foldl (fun options c => options.set c false)
    (on.foldl (fun options c => options.set c true) options)

/-- Switches options on for the whole pattern, which is read for the classes of
ASCII. -/
def Options.whole (options : Options) (on : Text) : Options :=
  { options.within on [] with
    wide := options.wide
    incompatible := options.incompatible || on.contains 'u' }

/-- Refuses a token that is neither an option nor anything else that may stand in
its place. -/
def refuseOption {α : Type} (token : Text) (expected : Cause) (next : Cursor) :
    Except ParseError α :=
  match token with
  | [] => next.fail expected
  | [c] => next.fail (if Text.isLetter c then .unknownOption else expected) 1
  | other => next.fail expected other.length

/-- The letters to switch on, and the mark that ends them. -/
def optionsOn : (fuel : Nat) → Text → Cursor →
    Except ParseError (Text × Char × Cursor)
  | 0, _, cursor => cursor.fail .missingOptionEnd
  | fuel + 1, letters, cursor => do
      let (token, next) ← cursor.take
      match token with
      | [c] =>
          if c = ')' ∨ c = '-' ∨ c = ':' then .ok (letters, c, next)
          else if c = 'L' then next.fail .localeOption
          else if !isOption c then refuseOption token .missingOptionEnd next
          else if (c = 'a' ∧ 'u' ∈ letters) ∨ (c = 'u' ∧ 'a' ∈ letters) then
            next.fail .mixedClasses
          else optionsOn fuel (letters ++ [c]) next
      | other => refuseOption other .missingOptionEnd next

/-- The letters to switch off, from the first of them to the colon. -/
def optionsOff (expected : Cause) : (fuel : Nat) → Text → Cursor →
    Except ParseError (Text × Cursor)
  | 0, _, cursor => cursor.fail expected
  | fuel + 1, letters, cursor => do
      let (token, next) ← cursor.take
      match token with
      | [c] =>
          if c = ':' ∧ !letters.isEmpty then .ok (letters, next)
          else if !isOption c then refuseOption token expected next
          else if c = 'a' ∨ c = 'u' ∨ c = 'L' then next.fail .fixedOption
          else optionsOff .missingColon fuel (letters ++ [c]) next
      | other => refuseOption other expected next

/-! ## Openings -/

/-- What stands after the opening parenthesis of a group. -/
inductive Opening where
  /-- A capturing group, with its name if it has one. -/
  | capturing (name : Option Text)
  /-- A group under changed options. -/
  | scoped (options : Options)
  /-- Options of the whole pattern, up to their end. -/
  | whole (options : Options)
  | comment
  | atomic
  | ahead (negated : Bool)
  | behind (negated : Bool)
  /-- A reference to a group of some width, up to its end. -/
  | reference (index : Nat) (width : Width)
  /-- A condition on a group. -/
  | condition (index : Nat)

/-- The options between the question mark and the colon or the end of a group. -/
def optionGroup (options : Options) (fuel : Nat) (cursor : Cursor) :
    Except ParseError (Opening × Cursor) := do
  let (on, mark, next) ← optionsOn fuel [] cursor
  if mark = ')' then .ok (.whole (options.whole on), next)
  else if on.contains 't' then next.fail .wholeOptionOn 1
  else if mark = ':' then .ok (.scoped (options.within on []), next)
  else
    let (off, next) ← optionsOff .missingOption fuel [] next
    if off.contains 't' then next.fail .wholeOptionOff 1
    else if on.any off.contains then next.fail .bothWays 1
    else .ok (.scoped (options.within on off), next)

/-- The name of a group, up to its terminator. -/
def groupName (terminator : Char) (fuel : Nat) (cursor : Cursor) :
    Except ParseError (Text × Cursor) := do
  let (name, next) ← cursor.takeName "group name" terminator fuel []
  if Text.isName name then .ok (name, next)
  else next.fail (.badName name) (name.length + 1)

/-- The group of a name. -/
def named (name : Text) (cursor : Cursor) : Except ParseError Nat :=
  match cursor.names.lookup name with
  | some index => .ok index
  | none => cursor.fail (.unknownGroupName name) (name.length + 1)

/-- The first number that no group can have. -/
def groupLimit : Nat := 1073741823

/-- The group that a condition asks for by its number, which may belong to a
later group. -/
def conditionNumber (spelled : Text) (cursor : Cursor) :
    Except ParseError (Nat × Cursor) :=
  let width := spelled.length + 1
  match Decimal.readInt spelled with
  | .ok (.ofNat index) =>
      if index = 0 then cursor.fail .badGroupNumber width
      else if groupLimit ≤ index then cursor.fail (.badGroupReference index) width
      else if (cursor.conditions.lookup index).isSome then .ok (index, cursor)
      else
        let asked := (index, cursor.position - width)
        .ok (index, { cursor with conditions := cursor.conditions ++ [asked] })
  | _ => cursor.fail (.badName spelled) width

/-- The group that a condition asks for, by its name or by its number. -/
def conditionGroup (fuel : Nat) (cursor : Cursor) :
    Except ParseError (Nat × Cursor) := do
  let (spelled, next) ← cursor.takeName "group name" ')' fuel []
  let (index, next) ←
    if Text.isName spelled then do
      let index ← named spelled next
      .ok (index, next)
    else conditionNumber spelled next
  next.checkLookbehind index
  .ok (index, next)

/-- The opening of a group, from after its parenthesis. -/
def opening (options : Options) (start : Nat) (cursor : Cursor) :
    Except ParseError (Opening × Cursor) := do
  match ← cursor.passes? '?' with
  | none => .ok (.capturing none, cursor)
  | some cursor =>
      let fuel := cursor.rest.length + 1
      let (token, next) ← cursor.take
      match token with
      | [] => next.fail .unexpectedEnd
      | ['P'] =>
          let (mark, after) ← next.take
          match mark with
          | [] => after.fail .unexpectedEnd
          | ['<'] =>
              let (name, next) ← groupName '>' fuel after
              .ok (.capturing (some name), next)
          | ['='] =>
              let (name, next) ← groupName ')' fuel after
              let index ← named name next
              let width ← next.reference index (name.length + 1)
              .ok (.reference index width, next)
          | mark => after.fail (.unknownExtension ('P' :: mark)) (mark.length + 2)
      | [':'] => .ok (.scoped options, next)
      | ['#'] => do
          let next ← comment start fuel next
          .ok (.comment, next)
      | ['<'] =>
          let (mark, next) ← next.take
          match mark with
          | [] => next.fail .unexpectedEnd
          | ['='] => .ok (.behind false, next)
          | ['!'] => .ok (.behind true, next)
          | mark => next.fail (.unknownExtension ('<' :: mark)) (mark.length + 2)
      | ['='] => .ok (.ahead false, next)
      | ['!'] => .ok (.ahead true, next)
      | ['>'] => .ok (.atomic, next)
      | ['('] => do
          let (index, next) ← conditionGroup fuel next
          .ok (.condition index, next)
      | mark =>
          if mark == ['-'] || mark.all isOption then optionGroup options fuel cursor
          else next.fail (.unknownExtension mark) (mark.length + 1)

end Inquiry.Pattern
