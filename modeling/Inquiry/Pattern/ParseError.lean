import Inquiry.Text.Quoted
import Inquiry.Decimal.Integer

/-!
# Refusals of patterns

A text that is not a pattern is refused for one cause, at one position.  A text
that is one may still be refused as a whole, at no position.
-/

namespace Inquiry.Pattern

/-- Why a text is not a pattern. -/
inductive Cause where
  | badEscape (escape : Text)
  | escapeAtEnd
  | incompleteEscape (escape : Text)
  | octalTooLarge (escape : Text)
  | characterTooLarge
  | missingBrace
  | unknownCharacterName (name : Text)
  | badGroupReference (index : Nat)
  | badGroupNumber
  | openGroupReference
  | sameLookbehind
  | unknownGroupName (name : Text)
  | tooManyBranches
  | unterminatedClass
  | badRange (first last : Text)
  | nothingToRepeat
  | multipleRepeat
  | bounds
  | boundTooLarge
  | boundTooLong (digits : Nat)
  | unexpectedEnd
  | unknownExtension (extension : Text)
  /-- There is no name before its terminator; `named` says of what. -/
  | missingName (named : Text)
  | unterminatedName (terminator : Char)
  | badName (name : Text)
  | nameTaken (name : Text) (new old : Nat)
  | unterminatedComment
  | unterminatedGroup
  | unbalancedParenthesis
  | misplacedOptions
  | unknownOption
  | missingOption
  | missingOptionEnd
  | missingColon
  | localeOption
  | mixedClasses
  | fixedOption
  | wholeOptionOn
  | wholeOptionOff
  | bothWays
  | incompatibleClasses
  | templateRepeat (operator : Text)
  | longLookbehind
  | variableLookbehind
  deriving Repr, DecidableEq

/-- The wording of a cause. -/
def Cause.message : Cause → Text
  | badEscape escape => "bad escape " ++ escape
  | escapeAtEnd => "bad escape (end of pattern)"
  | incompleteEscape escape => "incomplete escape " ++ escape
  | octalTooLarge escape =>
      "octal escape value " ++ escape ++ " outside of range 0-0o377"
  | characterTooLarge => "the character number is too large"
  | missingBrace => "missing \x7b"
  | unknownCharacterName name => "undefined character name " ++ Text.quoted name
  | badGroupReference index => "invalid group reference " ++ Decimal.ofNat index
  | badGroupNumber => "bad group number"
  | openGroupReference => "cannot refer to an open group"
  | sameLookbehind =>
      "cannot refer to group defined in the same lookbehind subpattern"
  | unknownGroupName name => "unknown group name " ++ Text.quoted name
  | tooManyBranches => "conditional backref with more than two branches"
  | unterminatedClass => "unterminated character set"
  | badRange first last => "bad character range " ++ first ++ "-" ++ last
  | nothingToRepeat => "nothing to repeat"
  | multipleRepeat => "multiple repeat"
  | bounds => "min repeat greater than max repeat"
  | boundTooLarge => "the repetition number is too large"
  | boundTooLong digits =>
      "the repetition number has " ++ Decimal.ofNat digits ++ " digits"
  | unexpectedEnd => "unexpected end of pattern"
  | unknownExtension extension => "unknown extension ?" ++ extension
  | missingName named => "missing " ++ named
  | unterminatedName terminator =>
      "missing " ++ [terminator] ++ ", unterminated name"
  | badName name => "bad character in group name " ++ Text.quoted name
  | nameTaken name new old =>
      "redefinition of group name " ++ Text.quoted name ++ " as group " ++
        Decimal.ofNat new ++ "; was group " ++ Decimal.ofNat old
  | unterminatedComment => "missing ), unterminated comment"
  | unterminatedGroup => "missing ), unterminated subpattern"
  | unbalancedParenthesis => "unbalanced parenthesis"
  | misplacedOptions => "global flags not at the start of the expression"
  | unknownOption => "unknown flag"
  | missingOption => "missing flag"
  | missingOptionEnd => "missing -, : or )"
  | missingColon => "missing :"
  | localeOption => "bad inline flags: cannot use 'L' flag with a str pattern"
  | mixedClasses =>
      "bad inline flags: flags 'a', 'u' and 'L' are incompatible"
  | fixedOption => "bad inline flags: cannot turn off flags 'a', 'u' and 'L'"
  | wholeOptionOn => "bad inline flags: cannot turn on global flag"
  | wholeOptionOff => "bad inline flags: cannot turn off global flag"
  | bothWays => "bad inline flags: flag turned on and off"
  | incompatibleClasses => "ASCII and UNICODE flags are incompatible"
  | templateRepeat operator =>
      "internal: unsupported template operator " ++ operator
  | longLookbehind => "looks too much behind"
  | variableLookbehind => "look-behind requires fixed-width pattern"

/-- A cause and the position, in characters, where it was found; there is none
where the pattern as a whole cannot be used. -/
structure ParseError where
  cause : Cause
  position : Option Nat
  deriving Repr, DecidableEq

/-- A position as messages name it, with line and column when the pattern spans
several lines. -/
def placeText (source : Text) (position : Nat) : Text :=
  let before := source.take position
  let line := before.count '\n' + 1
  let column :=
    match before.reverse.findIdx? (· == '\n') with
    | some distance => distance + 1
    | none => position + 1
  " at position " ++ Decimal.ofNat position ++
    if source.contains '\n' then
      " (line " ++ Decimal.ofNat line ++ ", column " ++ Decimal.ofNat column ++ ")"
    else []

/-- The message for a pattern that was refused. -/
def ParseError.message (error : ParseError) (source : Text) : Text :=
  error.cause.message ++
    match error.position with
    | some position => placeText source position
    | none => []

end Inquiry.Pattern
