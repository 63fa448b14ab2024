import Inquiry.Proofs.Pattern.Greedy
import Inquiry.Proofs.Text.Number

/-!
# Patterns that find numbers

The bundled patterns look for a number next to a word.  A search tries the places of a text from
left to right, and at each place a greedy repetition gives back what it took too much.  All the
same it finds exactly what is named: the leftmost number, with all its digits.
-/

namespace Inquiry.Pattern

open Text (Naming Leftmost NumberBehind NumberBefore)

variable {passed : Text} {captures : List (Nat × Text)} {onward : Onward} {result : Spot}

/-- The pattern matches where a number is named and captures its digits.  Where it matches, a number
is named, perhaps one that begins further to the left. -/
structure Finds (pattern : Pattern) (naming : Naming) : Prop where
  captured : ∀ {text before digits : Text}, naming text before digits →
    ∃ rest, text = before ++ rest ∧ ∀ passed, ∃ spot,
      run pattern { before := passed, rest, captures := [] } some = some spot ∧
        spot.capture? 1 = some digits
  named : ∀ {passed : Text} {spot : Spot} (before rest : Text),
    run pattern { before := passed, rest, captures := [] } some = some spot →
      ∃ earlier digits, earlier.length ≤ before.length ∧ naming (before ++ rest) earlier digits

/-! ## Searches -/

/-- A search passes over the places where the pattern does not match. -/
theorem searchFrom_append {pattern : Pattern} {before rest : Text}
    (idle : ∀ front back, before = front ++ back → back ≠ [] → ∀ passed,
      run pattern { before := passed, rest := back ++ rest, captures := [] } some = none)
    (passed : Text) :
    searchFrom pattern passed (before ++ rest) =
      searchFrom pattern (before.reverse ++ passed) rest := by
  induction before generalizing passed with
  | nil => rfl
  | cons c before ih =>
      have here := idle [] (c :: before) rfl (List.cons_ne_nil _ _) passed
      have later : ∀ front back, before = front ++ back → back ≠ [] → ∀ passed,
          run pattern { before := passed, rest := back ++ rest, captures := [] } some = none :=
        fun front back parted => idle (c :: front) back (congrArg (c :: ·) parted)
      rw [List.cons_append] at here ⊢
      rw [searchFrom, here, Option.orElse_none, ih later, List.reverse_cons, List.append_assoc,
        List.singleton_append]

/-- A match at the front is the first one. -/
theorem searchFrom_eq_some {pattern : Pattern} {text : Text}
    (found : run pattern { before := passed, rest := text, captures := [] } some = some result) :
    searchFrom pattern passed text = some result := by
  cases text with
  | nil => exact found
  | cons c rest => rw [searchFrom, found, Option.orElse_some]

namespace Finds

variable {pattern : Pattern} {naming : Naming} {text before digits : Text}

/-- The leftmost number is found. -/
theorem exists_search (finds : Finds pattern naming)
    (leftmost : Leftmost naming text before digits) :
    ∃ spot, search pattern text = some spot ∧ spot.capture? 1 = some digits := by
  obtain ⟨rest, rfl, matched⟩ := finds.captured leftmost.named
  obtain ⟨spot, found, taken⟩ := matched (before.reverse ++ [])
  refine ⟨spot, ?_, taken⟩
  rw [search, searchFrom_append _ [], searchFrom_eq_some found]
  intro front back parted nonempty passed
  -- An earlier match would name a number further to the left.
  refine Option.eq_none_iff_forall_ne_some.mpr fun other found => ?_
  obtain ⟨earlier, others, noLater, named⟩ := finds.named front _ found
  rw [← List.append_assoc, ← parted] at named
  have first := leftmost.first earlier others named
  have positive := List.length_pos_of_ne_nil nonempty
  rw [parted, List.length_append] at first
  omega

/-- Where no number is named, none is found. -/
theorem search_eq_none (finds : Finds pattern naming)
    (absent : ∀ before digits, ¬naming text before digits) : search pattern text = none := by
  have idle : ∀ front back, text = front ++ back → ∀ passed,
      run pattern { before := passed, rest := back, captures := [] } some = none := by
    intro front back parted passed
    refine Option.eq_none_iff_forall_ne_some.mpr fun spot found => ?_
    obtain ⟨earlier, digits, -, named⟩ := finds.named front back found
    exact absent earlier digits (parted ▸ named)
  rw [search, ← List.append_nil text, searchFrom_append _ []]
  · exact idle text [] (List.append_nil text).symm _
  · intro front back parted _ passed
    rw [List.append_nil]
    exact idle front back parted passed

end Finds

/-! ## Blanks and digits -/

theorem holds_blank :
    CharClass.holds { items := [.within .blank] } = Text.isAsciiBlank := by
  funext c
  simp [CharClass.holds, ClassItem.holds, Category.holds]

theorem holds_digit :
    CharClass.holds { items := [.span '0'.toNat '9'.toNat] } = Text.isAsciiDigit := by
  funext c
  simp [CharClass.holds, ClassItem.holds, Manner.variants, Text.isAsciiDigit, Char.isDigit,
    UInt32.le_iff_toNat_le]

theorem isAsciiBlank_of_isAsciiDigit {c : Char} (digit : Text.isAsciiDigit c = true) :
    Text.isAsciiBlank c = false := by
  by_contra blank
  have foreign := Text.isAsciiDigit_of_isBlank
    (Text.isBlank_of_isAsciiBlank (Bool.eq_true_of_not_eq_false blank))
  rw [digit] at foreign
  cases foreign

theorem run_someBlanks {blanks after : Text} (nonempty : blanks ≠ [])
    (all : ∀ c ∈ blanks, Text.isAsciiBlank c = true)
    (outside : after.head?.any Text.isAsciiBlank = false)
    (goes : onward { before := blanks.reverse ++ passed, rest := after, captures } =
      some result) :
    run Vocabulary.someBlanks { before := passed, rest := blanks ++ after, captures } onward =
      some result := by
  rw [← holds_blank] at all outside
  exact run_repeated_char nonempty all outside goes

/-- All the digits are captured. -/
theorem run_someDigits {digits after : Text} (plain : Decimal.isPlain digits = true)
    (outside : after.head?.any Text.isAsciiDigit = false)
    (goes : onward
      { before := digits.reverse ++ passed, rest := after
        captures := (1, digits) :: captures } = some result) :
    run Vocabulary.someDigits { before := passed, rest := digits ++ after, captures } onward =
      some result := by
  obtain ⟨nonempty, all⟩ := Decimal.isPlain_iff.mp plain
  rw [← holds_digit] at all outside
  rw [Vocabulary.someDigits, run]
  apply run_repeated_char nonempty all outside
  simpa using goes

theorem takes_someBlanks : Takes (run Vocabulary.someBlanks)
    fun piece => piece ≠ [] ∧ ∀ c ∈ piece, Text.isAsciiBlank c = true := by
  have takes := takes_repeated_char { items := [.within .blank] }
  rw [holds_blank] at takes
  exact takes

theorem takes_someDigits : Takes (run Vocabulary.someDigits)
    fun piece => Decimal.isPlain piece = true := by
  have takes := (takes_repeated_char { items := [.span '0'.toNat '9'.toNat] }).group 1
  simp only [holds_digit, ← Decimal.isPlain_iff] at takes
  exact takes

/-! ## Numbers behind a word -/

/-- The digits at the front of a text belong to the number in front of them. -/
theorem exists_whole_number {digits : Text} (plain : Decimal.isPlain digits = true)
    (after : Text) : ∃ whole rest, digits ++ after = whole ++ rest ∧
      Decimal.isPlain whole = true ∧ rest.head?.any Text.isAsciiDigit = false := by
  obtain ⟨nonempty, all⟩ := Decimal.isPlain_iff.mp plain
  refine ⟨digits ++ after.takeWhile Text.isAsciiDigit, after.dropWhile Text.isAsciiDigit, ?_,
    Decimal.isPlain_iff.mpr ⟨List.append_ne_nil_of_left_ne_nil nonempty _, ?_⟩,
    Text.head?_dropWhile after⟩
  · rw [List.append_assoc, List.takeWhile_append_dropWhile]
  · exact List.forall_mem_append.mpr ⟨all, fun c => List.mem_takeWhile_imp⟩

theorem finds_wordBeforeNumber (word : Text) :
    Finds (Vocabulary.wordBeforeNumber word) (NumberBehind word) where
  captured := by
    rintro _ before digits @⟨_, blanks, _, after, nonempty, blank, plain, ends⟩
    refine ⟨_, rfl, fun passed =>
      ⟨{ before := digits.reverse ++ (blanks.reverse ++ (word.reverse ++ passed))
         rest := after
         captures := [(1, digits)] }, ?_, rfl⟩⟩
    obtain ⟨filled, all⟩ := Decimal.isPlain_iff.mp plain
    have behind : (digits ++ after).head?.any Text.isAsciiBlank = false := by
      rw [List.head?_append_of_ne_nil _ filled]
      exact Text.head?_of_outside fun c member => isAsciiBlank_of_isAsciiDigit (all c member)
    rw [Vocabulary.wordBeforeNumber, run_spelling]
    simp only [inOrder, run]
    exact run_someBlanks nonempty blank behind (run_someDigits plain ends rfl)
  named := by
    intro passed spot before rest found
    have takes := takes_spelling word
      (takes_someBlanks.inOrder_cons (takes_someDigits.inOrder_cons takes_nil))
    obtain ⟨_, next, whole, ⟨_, ⟨blanks, _, ⟨nonempty, blank⟩, ⟨digits, _, plain, rfl, rfl⟩, rfl⟩,
      rfl⟩, -⟩ := takes _ _ _ found
    -- The match may have given digits back, but the number has them all.
    obtain ⟨number, after, parted, numberPlain, ends⟩ := exists_whole_number plain next.rest
    have text : rest = word ++ (blanks ++ (number ++ after)) := by
      rw [← parted]
      simpa only [List.append_assoc, List.append_nil] using whole
    exact ⟨before, number, le_rfl, text ▸ .intro nonempty blank numberPlain ends⟩

/-- A word and a number are found where they stand alone. -/
theorem exists_search_wordBeforeNumber (word : Text) {digits : Text}
    (plain : Decimal.isPlain digits = true) :
    ∃ spot, search (Vocabulary.wordBeforeNumber word) (word ++ ' ' :: digits) = some spot ∧
      spot.capture? 1 = some digits := by
  have named : NumberBehind word ([] ++ (word ++ ([' '] ++ (digits ++ [])))) [] digits :=
    .intro (List.cons_ne_nil _ _) (List.all_eq_true.mp (by decide)) plain rfl
  rw [List.nil_append, List.append_nil, List.singleton_append] at named
  exact (finds_wordBeforeNumber word).exists_search ⟨named, fun _ _ _ => Nat.zero_le _⟩

/-! ## Numbers before a word -/

/-- Digits at the end of a text belong to the number behind them. -/
theorem exists_whole_number_back {digits : Text} (plain : Decimal.isPlain digits = true)
    (before : Text) : ∃ rest whole, before ++ digits = rest ++ whole ∧
      rest.length ≤ before.length ∧ rest.getLast?.any Text.isAsciiDigit = false ∧
      Decimal.isPlain whole = true := by
  obtain ⟨nonempty, all⟩ := Decimal.isPlain_iff.mp plain
  refine ⟨before.rdropWhile Text.isAsciiDigit, before.rtakeWhile Text.isAsciiDigit ++ digits, ?_,
    (List.rdropWhile_prefix _ _).length_le, ?_,
    Decimal.isPlain_iff.mpr ⟨List.append_ne_nil_of_right_ne_nil _ nonempty, ?_⟩⟩
  · rw [← List.append_assoc, List.rdropWhile_append_rtakeWhile]
  · rw [List.rdropWhile, List.getLast?_reverse]
    exact Text.head?_dropWhile _
  · refine List.forall_mem_append.mpr ⟨fun c member => ?_, all⟩
    exact List.mem_takeWhile_imp (List.mem_reverse.mp member)

/-- Of several words the first one that stands here is matched. -/
theorem exists_run_oneOf {words : List Text} {word : Text} (listed : word ∈ words)
    (passed : Text) (after : Text) (captures : List (Nat × Text)) :
    ∃ spot, run (oneOf (words.map fun word => inOrder (Vocabulary.spelling word)))
        { before := passed, rest := word ++ after, captures } some = some spot ∧
      spot.captures = captures := by
  have spelled (first tail : Text) :
      run (inOrder (Vocabulary.spelling first))
          { before := passed, rest := first ++ tail, captures } some =
        some { before := first.reverse ++ passed, rest := tail, captures } := by
    rw [← List.append_nil (Vocabulary.spelling first)]
    exact run_spelling first [] tail
  induction words with
  | nil => cases listed
  | cons first others ih =>
      rw [List.map_cons]
      by_cases here : first <+: word ++ after
      · obtain ⟨tail, parted⟩ := here
        rw [← parted]
        exact ⟨_, run_oneOf_of_some (spelled first tail), rfl⟩
      · have misses : run (inOrder (Vocabulary.spelling first))
            { before := passed, rest := word ++ after, captures } some = none := by
          refine Option.eq_none_iff_forall_ne_some.mpr fun spot found => ?_
          obtain ⟨_, next, whole, rfl, -⟩ := takes_word first _ _ _ found
          exact here ⟨next.rest, whole.symm⟩
        have further : word ∈ others := by
          refine (List.mem_cons.mp listed).resolve_left ?_
          rintro rfl
          exact here (List.prefix_append _ _)
        obtain ⟨spot, found, kept⟩ := ih further
        refine ⟨spot, ?_, kept⟩
        rw [run_oneOf_of_none (by simpa using List.ne_nil_of_mem further) misses, found]

theorem finds_numberBeforeWord {words : List Text} (nonempty : words ≠ [])
    (inked : ∀ word ∈ words, Text.IsInked word) :
    Finds (Vocabulary.numberBeforeWord words) (NumberBefore words) where
  captured := by
    rintro _ before digits @⟨_, _, blanks, word, after, begins, plain, filled, blank, listed⟩
    refine ⟨_, rfl, fun passed => ?_⟩
    have number : (blanks ++ (word ++ after)).head?.any Text.isAsciiDigit = false := by
      rw [List.head?_append_of_ne_nil _ filled]
      refine Text.head?_of_outside fun c member => ?_
      exact Text.isAsciiDigit_of_isBlank (Text.isBlank_of_isAsciiBlank (blank c member))
    have behind : (word ++ after).head?.any Text.isAsciiBlank = false := by
      have ink := inked word listed
      obtain ⟨first, others, rfl⟩ := List.exists_cons_of_ne_nil ink.nonempty
      exact Bool.eq_false_iff.mpr fun space =>
        Bool.eq_false_iff.mp ink.begins (Text.isBlank_of_isAsciiBlank space)
    obtain ⟨spot, matched, kept⟩ := exists_run_oneOf listed
      (blanks.reverse ++ (digits.reverse ++ passed)) after [(1, digits)]
    refine ⟨spot, ?_, by rw [Spot.capture?, kept]; rfl⟩
    rw [Vocabulary.numberBeforeWord]
    simp only [inOrder, run]
    exact run_someDigits plain number (run_someBlanks filled blank behind matched)
  named := by
    intro passed spot before rest found
    have someWord :
        Takes (run (oneOf (words.map fun word => inOrder (Vocabulary.spelling word))))
          (· ∈ words) := by
      refine Takes.oneOf (by simpa using nonempty) fun pattern listed => ?_
      obtain ⟨word, member, rfl⟩ := List.mem_map.mp listed
      intro spot onward result found
      obtain ⟨_, next, whole, rfl, later⟩ := takes_word word spot onward result found
      exact ⟨_, next, whole, member, later⟩
    have takes := takes_someDigits.inOrder_cons
      (takes_someBlanks.inOrder_cons (someWord.inOrder_cons takes_nil))
    obtain ⟨_, next, whole, ⟨digits, _, plain, ⟨blanks, _, ⟨filled, blank⟩,
      ⟨word, _, listed, rfl, rfl⟩, rfl⟩, rfl⟩, -⟩ := takes _ _ _ found
    -- The match may begin within a number, whose first digits then stand in front of it.
    obtain ⟨front, number, parted, noLater, begins, numberPlain⟩ :=
      exists_whole_number_back plain before
    refine ⟨front, number, noLater, ?_⟩
    have text : before ++ rest = front ++ (number ++ (blanks ++ (word ++ next.rest))) := by
      rw [← List.append_assoc front, ← parted]
      simp only [List.append_assoc, List.append_nil] at whole ⊢
      rw [← whole]
    exact text ▸ .intro begins numberPlain filled blank listed

end Inquiry.Pattern
