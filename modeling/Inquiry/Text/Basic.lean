/-!
# Text

A text is a sequence of code points.  Lengths, slices and searches therefore
count code points, and string literals stand for the texts they spell.
-/

namespace Inquiry

/-- A sequence of code points. -/
abbrev Text := List Char

instance : Coe String Text := ⟨String.toList⟩

namespace Text

/-- The pieces in order, with the separator between neighbours. -/
def join (separator : Text) : List Text → Text
  | [] => []
  | [piece] => piece
  | piece :: rest => piece ++ separator ++ join separator rest

@[simp] theorem join_nil (separator : Text) : join separator [] = [] := rfl

@[simp] theorem join_singleton (separator piece : Text) :
    join separator [piece] = piece := rfl

@[simp] theorem join_cons_cons (separator first second : Text)
    (rest : List Text) :
    join separator (first :: second :: rest) =
      first ++ separator ++ join separator (second :: rest) := rfl

/-- The needle stands somewhere in the text as one unbroken piece. -/
def occurs (needle : Text) : Text → Bool
  | [] => needle.isEmpty
  | c :: rest => needle.isPrefixOf (c :: rest) || occurs needle rest

theorem occurs_iff {needle text : Text} :
    occurs needle text = true ↔ needle <:+: text := by
  induction text with
  | nil => simp [occurs]
  | cons c rest ih =>
      simp [occurs, ih, List.infix_cons_iff]

/-- Replaces every occurrence of the needle, from left to right and without
overlap.  The number counts the characters that an occurrence still covers. -/
def replaceFrom (needle replacement : Text) : Nat → Text → Text
  | _, [] => []
  | 0, c :: rest =>
      if needle.isPrefixOf (c :: rest) then
        replacement ++ replaceFrom needle replacement (needle.length - 1) rest
      else c :: replaceFrom needle replacement 0 rest
  | covered + 1, _ :: rest => replaceFrom needle replacement covered rest

/-- Replaces every occurrence of a non-empty needle. -/
def replace (needle replacement text : Text) : Text :=
  replaceFrom needle replacement 0 text

/-- Every occurrence of one character becomes another. -/
def swap (old new : Char) (text : Text) : Text :=
  text.map fun c => if c = old then new else c

/-- What follows the last occurrence of the mark; the whole text if there is
none. -/
def afterLast (mark : Char) (text : Text) : Text :=
  (text.reverse.takeWhile (· ≠ mark)).reverse

/-- The parts before and after the first occurrence of the mark. -/
def cut? (mark : Char) : Text → Option (Text × Text)
  | [] => none
  | c :: rest =>
      if c = mark then some ([], rest)
      else (cut? mark rest).map fun (left, right) => (c :: left, right)

/-- The pieces between the occurrences of the mark. -/
def pieces (mark : Char) : Text → List Text
  | [] => [[]]
  | c :: rest =>
      match pieces mark rest with
      | [] => [[c]]
      | piece :: others =>
          if c = mark then [] :: piece :: others else (c :: piece) :: others

/-- Fills up with blanks on the right. -/
def padRight (width : Nat) (text : Text) : Text :=
  text ++ List.replicate (width - text.length) ' '

/-- Fills up with blanks on the left. -/
def padLeft (width : Nat) (text : Text) : Text :=
  List.replicate (width - text.length) ' ' ++ text

/-- Order by code points, a proper beginning first. -/
def precedes (left right : Text) : Bool :=
  left.lex right (fun a b => a.toNat < b.toNat)

end Text

end Inquiry
