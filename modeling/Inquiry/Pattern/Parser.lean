import Inquiry.Pattern.Bracket
import Inquiry.Pattern.Group

/-!
# Reading patterns

The reader takes literals, the dot, character classes, the escapes of digits,
blanks, word characters and control characters, anchors, groups of every kind,
references and conditions, alternatives, and repetition.
-/

namespace Inquiry.Pattern

/-- Passes over the rest of a line. -/
def skipLine : (fuel : Nat) → Cursor → Except ParseError Cursor
  | 0, cursor => .ok cursor
  | fuel + 1, cursor => do
      let (token, next) ← cursor.take
      if token.isEmpty ∨ token = ['\n'] then .ok next else skipLine fuel next

/-- Passes over a blank or the beginning of a comment, which count for nothing
under the verbose option. -/
def skipVerbose? (options : Options) (cursor : Cursor) :
    Except ParseError (Option Cursor) :=
  if !options.verbose then .ok none
  else
    match cursor.token with
    | [c] => do
        if Text.isAsciiBlank c then
          let (_, next) ← cursor.take
          .ok (some next)
        else if c = '#' then
          let next ← skipLine (cursor.rest.length + 1) cursor
          .ok (some next)
        else .ok none
    | _ => .ok none

/-- Reads the options of the whole pattern, which stand at its beginning.
Comments may stand between them. -/
def wholeOptions : (fuel : Nat) → Options → Cursor →
    Except ParseError (Options × Cursor)
  | 0, options, cursor => .ok (options, cursor)
  | fuel + 1, options, cursor => do
      match ← skipVerbose? options cursor with
      | some next => wholeOptions fuel options next
      | none =>
          match ← cursor.passes? '(' with
          | none => .ok (options, cursor)
          | some next =>
              match ← opening options cursor.position next with
              | (.whole changed, next) => wholeOptions fuel changed next
              | (.comment, next) => wholeOptions fuel options next
              | _ => .ok (options, cursor)

/-- The parts of an alternative, given in reverse, as one. -/
def joined (parts : List Part) : Fragment :=
  .inOrder (parts.reverse.map (·.fragment))

/-- A class in brackets, from after the opening one. -/
def bracketPart (options : Options) (cursor : Cursor) :
    Except ParseError (Part × Cursor) := do
  let (negated, inside) :=
    match ← cursor.passes? '^' with
    | some inside => (true, inside)
    | none => (false, cursor)
  let (items, next) ←
    classItems (cursor.position - 1) (inside.rest.length + 1) [] inside
  .ok (.char { items, negated, manner := options.toManner }, next)

/-- The dot. -/
def dotPart (options : Options) : Part :=
  let ends : List ClassItem := [.span '\n'.toNat '\n'.toNat]
  .char { items := if options.dotTakesAll then [] else ends, negated := true }

mutual

/-- Alternatives up to the end of the group or of the pattern, as one. -/
def alternatives : (fuel : Nat) → Options → Cursor →
    Except ParseError (Fragment × Cursor)
  | 0, _, cursor => cursor.fail .unexpectedEnd
  | fuel + 1, options, cursor => do
      let (first, next) ← parts fuel options [] cursor
      let (others, next) ← further fuel options next
      .ok (.oneOf (joined first) others, next)

/-- The alternatives after the first one. -/
def further : (fuel : Nat) → Options → Cursor →
    Except ParseError (List Fragment × Cursor)
  | 0, _, cursor => cursor.fail .unexpectedEnd
  | fuel + 1, options, cursor => do
      match ← cursor.passes? '|' with
      | none => .ok ([], cursor)
      | some next =>
          let (first, next) ← parts fuel options [] next
          let (others, next) ← further fuel options next
          .ok (joined first :: others, next)

/-- The parts of one alternative; those read so far are given in reverse. -/
def parts : (fuel : Nat) → Options → List Part → Cursor →
    Except ParseError (List Part × Cursor)
  | 0, _, _, cursor => cursor.fail .unexpectedEnd
  | fuel + 1, options, found, cursor => do
      match ← skipVerbose? options cursor with
      | some next => parts fuel options found next
      | none =>
          let token := cursor.token
          if token.isEmpty ∨ token = ['|'] ∨ token = [')'] then .ok (found, cursor)
          else
            let (_, next) ← cursor.take
            let here := next.position
            let repeated (bounds : Bounds) (next : Cursor) := do
              let (found, next) ← repeatLast options found bounds here next
              parts fuel options found next
            let literal (c : Char) :=
              parts fuel options (.point options c.toNat :: found) next
            match token with
            | ['\\', letter] =>
                let (part, next) ← escapePart letter options next
                parts fuel options (part :: found) next
            | ['['] =>
                let (part, next) ← bracketPart options next
                parts fuel options (part :: found) next
            | ['?'] => repeated ⟨0, some 1⟩ next
            | ['*'] => repeated ⟨0, none⟩ next
            | ['+'] => repeated ⟨1, none⟩ next
            | ['\x7b'] =>
                match ← braces? next with
                | some (bounds, next) => repeated bounds next
                | none => literal '\x7b'
            | ['.'] => parts fuel options (dotPart options :: found) next
            | ['^'] =>
                let condition : Anchor :=
                  if options.manyLines then .lineStart else .textStart
                parts fuel options (.position condition :: found) next
            | ['$'] =>
                let condition : Anchor :=
                  if options.manyLines then .lineEnd else .finalEnd
                parts fuel options (.position condition :: found) next
            | ['('] =>
                let start := here - 1
                match ← opening options start next with
                | (.comment, next) => parts fuel options found next
                | (.whole _, next) =>
                    next.fail .misplacedOptions (next.position - start)
                | (.reference index width, next) =>
                    let part : Part :=
                      { fragment := .echo index options.toManner width }
                    parts fuel options (part :: found) next
                | (.scoped changed, next) =>
                    let (body, next) ← alternatives fuel changed next
                    let next ← next.closing start
                    parts fuel options ({ fragment := body } :: found) next
                | (.atomic, next) =>
                    let (body, next) ← alternatives fuel options next
                    let next ← next.closing start
                    parts fuel options ({ fragment := .atomic body } :: found) next
                | (.ahead negated, next) =>
                    let (body, next) ← alternatives fuel options next
                    let next ← next.closing start
                    let part : Part := { fragment := .ahead negated body }
                    parts fuel options (part :: found) next
                | (.behind negated, next) =>
                    let outer := next.lookbehind
                    let inner := outer.orElse fun _ => some next.groups
                    let (body, next) ←
                      alternatives fuel options { next with lookbehind := inner }
                    let next ← next.closing start
                    let part : Part := { fragment := .behind negated body }
                    parts fuel options (part :: found) { next with lookbehind := outer }
                | (.condition index, next) =>
                    let (yes, next) ← parts fuel options [] next
                    let (no, next) ←
                      match ← next.passes? '|' with
                      | none => .ok ([], next)
                      | some next =>
                          let (no, next) ← parts fuel options [] next
                          if next.token = ['|'] then next.fail .tooManyBranches
                          else .ok (no, next)
                    let next ← next.closing start
                    let part : Part :=
                      { fragment := .given index (joined yes) (joined no) }
                    parts fuel options (part :: found) next
                | (.capturing name, next) =>
                    let (index, next) ← next.openGroup name
                    let (body, next) ← alternatives fuel options next
                    let next ← next.closing start
                    let part : Part := { fragment := .group index body }
                    parts fuel options (part :: found)
                      (next.closeGroup index body.width)
            | c :: _ => literal c
            | [] => .ok (found, next)

end

/-- Reads a pattern.  What is wrong with it as a whole is found after all that is
wrong at some place, except for what is left over behind it and the numbers of
groups that are not there. -/
def parse (source : Text) : Except ParseError Pattern := do
  let cursor ← Cursor.checked { position := 0, rest := source }
  let fuel := 2 * source.length + 3
  let (options, cursor) ← wholeOptions fuel {} cursor
  let (whole, rest) ← alternatives fuel options cursor
  if options.incompatible then
    throw { cause := .incompatibleClasses, position := none }
  if !rest.rest.isEmpty then rest.fail .unbalancedParenthesis
  else
    match rest.conditions.find? fun asked => rest.groups < asked.1, whole.refusal with
    | some (index, position), _ =>
        throw { cause := .badGroupReference index, position := some position }
    | none, some cause => throw { cause, position := none }
    | none, none => return whole.pattern

end Inquiry.Pattern
