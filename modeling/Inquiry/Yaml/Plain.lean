import Inquiry.Yaml.Quoted

/-!
# Plain YAML scalars

A plain scalar ends at a comment, at a colon with a blank after it, and in the
block context at a line that is indented too little.  Inside brackets it also
ends at the characters that structure them.
-/

namespace Inquiry.Yaml

/-- A character that brackets are structured by. -/
def isFlowMark (c : Char) : Bool :=
  c == ',' || c == '[' || c == ']' || c == '\x7b' || c == '\x7d'

/-- A plain scalar does not go on at a character that has this text after it. -/
def endsPlain (inFlow : Bool) (c : Char) (rest : Text) : Bool :=
  isGap c || isBreak c ||
    (c == ':' && (atWordEnd rest || (inFlow && startsWith isFlowMark rest))) ||
    (inFlow && (isFlowMark c || c == '?'))

/-- The unbroken part of a plain scalar at the front of a text. -/
def plainRun (inFlow : Bool) : Text → Text
  | [] => []
  | c :: rest =>
      if endsPlain inFlow c rest then [] else c :: plainRun inFlow rest

namespace Cursor

/-- The empty lines after a line break inside a plain scalar, or nothing if a
separator between documents follows. -/
def plainBreaks : (fuel : Nat) → Cursor → Option Text × Cursor
  | 0, cursor => (none, cursor)
  | fuel + 1, cursor =>
      if cursor.atSeparator then (none, cursor)
      else
        let cursor := cursor.dropWhile (· == ' ')
        match cursor.lineBreak? with
        | none => (some [], cursor)
        | some (c, cursor) =>
            let (more, cursor) := plainBreaks fuel cursor
            (more.map (c :: ·), cursor)

/-- The gap after an unbroken part: its text, empty if the scalar ends there,
and whether a line ended. -/
def plainGap (cursor : Cursor) : Text × Bool × Cursor :=
  let (gap, cursor) := cursor.takeWhile (· == ' ')
  match cursor.lineBreak? with
  | none => (gap, false, cursor)
  | some (first, cursor) =>
      let (more, cursor) := plainBreaks (cursor.rest.length + 1) cursor
      ((more.map (folded first)).getD [], true, cursor)

/-- A plain scalar that goes on after a gap.  Also says whether a line ended
after it. -/
def plainFrom (inFlow : Bool) (indent : Nat) :
    (fuel : Nat) → (gap : Text) → (lineEnded : Bool) → Cursor → Text × Bool × Cursor
  | 0, _, lineEnded, cursor => ([], lineEnded, cursor)
  | fuel + 1, gap, lineEnded, cursor =>
      let run := if cursor.next? = some '#' then [] else plainRun inFlow cursor.rest
      if run.isEmpty then ([], lineEnded, cursor)
      else
        let (next, lineEnded, cursor) := (cursor.advanceBy run.length).plainGap
        if next.isEmpty || (!inFlow && cursor.column < indent) then
          (gap ++ run, lineEnded, cursor)
        else
          let (more, lineEnded, cursor) := plainFrom inFlow indent fuel next lineEnded cursor
          (gap ++ run ++ more, lineEnded, cursor)

/-- A plain scalar, and whether a line ended after it. -/
def plain (inFlow : Bool) (indent : Nat) (cursor : Cursor) : Text × Bool × Cursor :=
  cursor.plainFrom inFlow indent (cursor.rest.length + 1) [] false

end Cursor

end Inquiry.Yaml
