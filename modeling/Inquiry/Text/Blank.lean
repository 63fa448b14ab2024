import Inquiry.Text.Basic

/-!
# Blanks and lines

Blanks are the separators and layout controls of every script.  Text is
stripped and tested for emptiness by this class, never by the ASCII blanks
alone.  Lines end at a line feed, a carriage return, both together, or one of
the further separators below.
-/

namespace Inquiry.Text

/-- A separator or layout control of any script. -/
def isBlank (c : Char) : Bool :=
  let point := c.toNat
  (9 ≤ point && point ≤ 13) || (28 ≤ point && point ≤ 32) ||
    point == 0x85 || point == 0xA0 || point == 0x1680 ||
    (0x2000 ≤ point && point ≤ 0x200A) ||
    point == 0x2028 || point == 0x2029 || point == 0x202F ||
    point == 0x205F || point == 0x3000

/-- One of the six ASCII blanks. -/
def isAsciiBlank (c : Char) : Bool :=
  c == ' ' || (9 ≤ c.toNat && c.toNat ≤ 13)

/-- Drops the blanks at both ends. -/
def strip (text : Text) : Text :=
  ((text.dropWhile isBlank).reverse.dropWhile isBlank).reverse

/-- Ends a line. -/
def isLineBreak (c : Char) : Bool :=
  let point := c.toNat
  (10 ≤ point && point ≤ 13) || (0x1C ≤ point && point ≤ 0x1E) ||
    point == 0x85 || point == 0x2028 || point == 0x2029

/-- Splits into lines.  `line` holds the characters of the current line in
reverse; a break at the very end opens no further line. -/
def linesFrom (line : Text) : Text → List Text
  | [] => if line.isEmpty then [] else [line.reverse]
  | '\r' :: '\n' :: rest => line.reverse :: linesFrom [] rest
  | c :: rest =>
      if isLineBreak c then line.reverse :: linesFrom [] rest
      else linesFrom (c :: line) rest

/-- The lines of a text, without their breaks. -/
def lines (text : Text) : List Text :=
  linesFrom [] text

/-- Writes every carriage return, alone or before a line feed, as one line
feed. -/
def unifyNewlines : Text → Text
  | [] => []
  | '\r' :: '\n' :: rest => '\n' :: unifyNewlines rest
  | '\r' :: rest => '\n' :: unifyNewlines rest
  | c :: rest => c :: unifyNewlines rest

/-- Every run of blanks and hyphens becomes one underscore.  `inRun` says that
the underscore of the current run is already written. -/
def tagFrom (inRun : Bool) : Text → Text
  | [] => []
  | c :: rest =>
      if isBlank c || c == '-' then
        if inRun then tagFrom true rest else '_' :: tagFrom true rest
      else c :: tagFrom false rest

/-- The text as a tag: runs of blanks and hyphens become one underscore. -/
def tag (text : Text) : Text :=
  tagFrom false text

end Inquiry.Text
