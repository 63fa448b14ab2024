import Inquiry.Yaml.Cursor

/-!
# Block scalars

A block scalar is a run of lines that are indented by the same number of
columns.  Its header says whether line breaks are kept or folded, what becomes
of the breaks at its end, and possibly how far it is indented.
-/

namespace Inquiry.Yaml

/-- What becomes of the line breaks at the end of a block scalar. -/
inductive Chomping where
  /-- One is kept. -/
  | clip
  /-- None is kept. -/
  | strip
  /-- All are kept. -/
  | keep
  deriving Repr, DecidableEq

/-- The chomping that an indicator asks for. -/
def Chomping.ofIndicator? : Char → Option Chomping
  | '+' => some .keep
  | '-' => some .strip
  | _ => none

/-- The header of a block scalar. -/
structure BlockHeader where
  chomping : Option Chomping
  /-- How much further than its surroundings the scalar is indented. -/
  increment : Option Nat
  deriving Repr, DecidableEq

/-- The lines of a block scalar as they were found. -/
structure BlockBody where
  content : Text := []
  /-- The break after the last line. -/
  lastBreak : Text := []
  /-- The empty lines at the end. -/
  trailing : Text := []
  cursor : Cursor
  deriving Repr, DecidableEq

namespace Cursor

/-- An indicator of the chomping. -/
def chomping (cursor : Cursor) : Option Chomping × Cursor :=
  match cursor.next?.bind Chomping.ofIndicator? with
  | some chomping => (some chomping, cursor.advance)
  | none => (none, cursor)

/-- An indicator of the indentation, which must not be zero. -/
def increment? (cursor : Cursor) : Option (Option Nat × Cursor) :=
  match cursor.next? with
  | some c =>
      if c = '0' then none
      else if c.isDigit then some (some (c.toNat - 48), cursor.advance)
      else some (none, cursor)
  | none => some (none, cursor)

/-- The header of a block scalar up to the end of its line. -/
def blockHeader? (cursor : Cursor) : Option (BlockHeader × Cursor) := do
  let (before, cursor) := cursor.chomping
  let (increment, cursor) ← cursor.increment?
  let (after, cursor) := if before.isSome then (none, cursor) else cursor.chomping
  if startsWith (fun c => c == ' ' || isBreak c) cursor.rest then
    let cursor ← cursor.finishLine?
    some ({ chomping := before.or after, increment }, cursor)
  else none

/-- Moves past blanks up to a column. -/
def indentTo (indent : Nat) (cursor : Cursor) : Cursor :=
  let gap := (cursor.rest.takeWhile (· == ' ')).take (indent - cursor.column)
  cursor.advanceBy gap.length

/-- The empty lines before the first line, and the widest indentation so far. -/
def leadingLines : (fuel : Nat) → Cursor → Text × Nat × Cursor
  | 0, cursor => ([], 0, cursor)
  | fuel + 1, cursor =>
      let cursor := cursor.dropWhile (· == ' ')
      match cursor.lineBreak? with
      | none => ([], cursor.column, cursor)
      | some (c, next) =>
          let (more, widest, next) := leadingLines fuel next
          (c :: more, max cursor.column widest, next)

/-- The empty lines before the next line that is indented up to a column. -/
def emptyLines (indent : Nat) : (fuel : Nat) → Cursor → Text × Cursor
  | 0, cursor => ([], cursor)
  | fuel + 1, cursor =>
      let cursor := cursor.indentTo indent
      match cursor.lineBreak? with
      | none => ([], cursor)
      | some (c, cursor) =>
          let (more, cursor) := emptyLines indent fuel cursor
          (c :: more, cursor)

/-- What stands between two lines.  Folding joins lines that both begin with
text. -/
def joint (fold : Bool) (line lineBreak trailing next : Text) : Text :=
  if fold && lineBreak == ['\n'] && !line.head?.any isGap && !next.head?.any isGap then
    if trailing.isEmpty then [' '] else []
  else lineBreak

/-- The lines of a block scalar, the first of them after some empty lines. -/
def blockLines (fold : Bool) (indent : Nat) :
    (fuel : Nat) → (leading : Text) → Cursor → BlockBody
  | 0, leading, cursor => { trailing := leading, cursor }
  | fuel + 1, leading, cursor =>
      if cursor.column = indent ∧ cursor.rest ≠ [] then
        let (line, cursor) := cursor.takeWhile (!isBreak ·)
        let (lineBreak, cursor) :=
          match cursor.lineBreak? with
          | some (c, cursor) => ([c], cursor)
          | none => ([], cursor)
        let (trailing, cursor) := emptyLines indent (cursor.rest.length + 1) cursor
        if cursor.column = indent ∧ cursor.rest ≠ [] then
          let body := blockLines fold indent fuel trailing cursor
          let joint := joint fold line lineBreak trailing cursor.rest
          { body with content := leading ++ line ++ joint ++ body.content }
        else { content := leading ++ line, lastBreak := lineBreak, trailing, cursor }
      else { trailing := leading, cursor }

/-- A block scalar whose first indicator is read.  The least indentation is that
of its surroundings and one more. -/
def block? (fold : Bool) (least : Nat) (cursor : Cursor) :
    Option (Text × Cursor) := do
  let (header, cursor) ← cursor.blockHeader?
  let fuel := cursor.rest.length + 1
  let body :=
    match header.increment with
    | some increment =>
        let indent := least + increment - 1
        let (leading, cursor) := emptyLines indent fuel cursor
        blockLines fold indent fuel leading cursor
    | none =>
        let (leading, widest, cursor) := leadingLines fuel cursor
        blockLines fold (max least widest) fuel leading cursor
  let ending :=
    match header.chomping.getD .clip with
    | .strip => []
    | .clip => body.lastBreak
    | .keep => body.lastBreak ++ body.trailing
  some (body.content ++ ending, body.cursor)

end Cursor

end Inquiry.Yaml
