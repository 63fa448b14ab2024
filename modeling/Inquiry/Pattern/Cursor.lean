import Inquiry.Pattern.Fragment

/-!
# The place of the reader in a pattern

A pattern is read token by token, from left to right.  An escape is one token,
so a backslash at the very end is found when the token before it is passed.
-/

namespace Inquiry.Pattern

/-- How far the reader has come. -/
structure Cursor where
  position : Nat
  rest : Text
  /-- The number of groups opened so far. -/
  groups : Nat := 0
  /-- The groups that are complete, with their widths. -/
  closed : List (Nat × Width) := []
  names : List (Text × Nat) := []
  /-- The number of groups that were open or complete before the outermost look
  behind; nothing outside of one. -/
  lookbehind : Option Nat := none
  /-- The groups that conditions ask for by number, with the positions of the
  first of them, in order. -/
  conditions : List (Nat × Nat) := []

namespace Cursor

/-- Stops the reader at some distance before the cursor. -/
def fail (cursor : Cursor) (cause : Cause) (distance : Nat := 0) :
    Except ParseError α :=
  .error { cause, position := some (cursor.position - distance) }

/-- Moves the cursor over some characters. -/
def skip (cursor : Cursor) (count : Nat) : Cursor :=
  { cursor with position := cursor.position + count, rest := cursor.rest.drop count }

/-- Refuses a backslash that nothing follows. -/
def checked (cursor : Cursor) : Except ParseError Cursor :=
  if cursor.rest == ['\\'] then cursor.fail .escapeAtEnd else .ok cursor

/-- The token at the cursor: an escape with its backslash, or a character. -/
def token (cursor : Cursor) : Text :=
  match cursor.rest with
  | '\\' :: c :: _ => ['\\', c]
  | c :: _ => [c]
  | [] => []

/-- Takes the token at the cursor; at the end there is none. -/
def take (cursor : Cursor) : Except ParseError (Text × Cursor) := do
  let token := cursor.token
  let next ← (cursor.skip token.length).checked
  .ok (token, next)

/-- Passes over a character if it is next. -/
def passes? (cursor : Cursor) (c : Char) : Except ParseError (Option Cursor) :=
  if cursor.token == [c] then do
    let (_, next) ← cursor.take
    .ok (some next)
  else .ok none

/-- Takes up to `count` characters of a class. -/
def takeSome (holds : Char → Bool) : (count : Nat) → Cursor →
    Except ParseError (Text × Cursor)
  | 0, cursor => .ok ([], cursor)
  | count + 1, cursor =>
      match cursor.token with
      | [c] =>
          if holds c then do
            let (_, next) ← cursor.take
            let (more, next) ← takeSome holds count next
            .ok (c :: more, next)
          else .ok ([], cursor)
      | _ => .ok ([], cursor)

/-- Everything up to a terminator, which must not come first.  `named` says what
the text is the name of. -/
def takeName (named : Text) (terminator : Char) : (fuel : Nat) → Text → Cursor →
    Except ParseError (Text × Cursor)
  | 0, _, cursor => cursor.fail (.missingName named)
  | fuel + 1, name, cursor => do
      let (token, next) ← cursor.take
      if token.isEmpty then
        if name.isEmpty then next.fail (.missingName named)
        else next.fail (.unterminatedName terminator) name.length
      else if token == [terminator] then
        if name.isEmpty then next.fail (.missingName named) 1 else .ok (name, next)
      else takeName named terminator fuel (name ++ token) next

/-- Passes over the parenthesis that closes a group opened at `start`. -/
def closing (cursor : Cursor) (start : Nat) : Except ParseError Cursor := do
  match ← cursor.passes? ')' with
  | some next => .ok next
  | none => cursor.fail .unterminatedGroup (cursor.position - start)

/-- Opens a group and gives it the next index. -/
def openGroup (cursor : Cursor) (name : Option Text) :
    Except ParseError (Nat × Cursor) :=
  let index := cursor.groups + 1
  match name with
  | none => .ok (index, { cursor with groups := index })
  | some name =>
      match cursor.names.lookup name with
      | some old => cursor.fail (.nameTaken name index old) (name.length + 1)
      | none =>
          .ok (index, { cursor with groups := index, names := (name, index) :: cursor.names })

/-- Marks a group as complete. -/
def closeGroup (cursor : Cursor) (index : Nat) (width : Width) : Cursor :=
  { cursor with closed := (index, width) :: cursor.closed }

/-- Inside a look behind only the groups before it may be referred to. -/
def checkLookbehind (cursor : Cursor) (index : Nat) : Except ParseError Unit :=
  match cursor.lookbehind with
  | none => .ok ()
  | some groups =>
      if (cursor.closed.lookup index).isNone then cursor.fail .openGroupReference
      else if groups < index then cursor.fail .sameLookbehind
      else .ok ()

/-- The width of a group that is referred to; `distance` is the length of the
reference. -/
def reference (cursor : Cursor) (index distance : Nat) : Except ParseError Width := do
  match cursor.closed.lookup index with
  | none => cursor.fail .openGroupReference distance
  | some width =>
      cursor.checkLookbehind index
      return width

end Cursor

end Inquiry.Pattern
