import Inquiry.Proofs.Text.Case

/-!
# Small letters between blanks

Blanks have no small form of their own, and the word-final test stops at them.  So a text is
turned into small letters between the blanks at its ends, and it does not matter whether they are
dropped before or after.

Every character keeps a place of its own in the small form of a text.
-/

namespace Inquiry.Text

/-! ## Blanks have no case -/

/-- The code points of blanks are in no run of the table and in no class of letters. -/
theorem blankSpans_caseless : (blankSpans.all fun span =>
    (List.range' span.1 (span.2 + 1 - span.1)).all fun point =>
      (capitalRuns.all fun run => (run.shifted? point).isNone) &&
        !Span.covers caseIgnorableSpans point && !Span.covers casedSpans point) = true := by
  decide +kernel

theorem caseless_of_isBlank {c : Char} (blank : isBlank c = true) :
    isSmall c = true ∧ isCaseIgnorable c = false ∧ isCased c = false := by
  obtain ⟨span, listed, low, high⟩ := isBlank_iff.mp blank
  have points := List.all_eq_true.mp blankSpans_caseless span listed
  have here := List.all_eq_true.mp points c.toNat (by rw [List.mem_range'_1]; omega)
  simp only [Bool.and_eq_true, Bool.not_eq_true', and_assoc] at here
  exact here

theorem lowerChar_of_isBlank {c : Char} (blank : isBlank c = true) : lowerChar c = [c] :=
  lowerChar_of_isSmall (caseless_of_isBlank blank).1

/-- The word-final test does not look behind blanks. -/
theorem meetsCased_append_blanks {blanks : Text} (all : ∀ c ∈ blanks, isBlank c = true)
    (text : Text) : meetsCased (text ++ blanks) = meetsCased text := by
  rw [meetsCased, meetsCased, List.find?_append]
  cases text.find? fun c => !isCaseIgnorable c with
  | some c => rfl
  | none =>
      cases blanks with
      | nil => rfl
      | cons blank rest =>
          obtain ⟨-, counted, uncased⟩ := caseless_of_isBlank (all blank (by simp))
          simp [counted, uncased]

/-! ## Places in a text -/

/-- The small form of a character between others, those before it in reverse. -/
def smallForm (before : Text) (c : Char) (rest : Text) : Text :=
  if c = 'Σ' then
    if meetsCased before && !meetsCased rest then ['ς'] else ['σ']
  else lowerChar c

theorem lowerFrom_cons (before : Text) (c : Char) (rest : Text) :
    lowerFrom before (c :: rest) = smallForm before c rest ++ lowerFrom (c :: before) rest :=
  rfl

theorem smallForm_of_isBlank {c : Char} (blank : isBlank c = true) (before rest : Text) :
    smallForm before c rest = [c] := by
  have plain : c ≠ 'Σ' := by
    rintro rfl
    revert blank
    decide
  rw [smallForm, if_neg plain, lowerChar_of_isBlank blank]

/-- How long a small form is depends on the character alone. -/
theorem length_smallForm (before other : Text) (c : Char) (rest later : Text) :
    (smallForm before c rest).length = (smallForm other c later).length := by
  simp only [smallForm]
  split
  · split <;> split <;> rfl
  · rfl

theorem inked_of_mem_smallForm {before : Text} {c d : Char} {rest : Text}
    (inked : isBlank c = false) (member : d ∈ smallForm before c rest) : isBlank d = false := by
  have sigmas : isBlank 'ς' = false ∧ isBlank 'σ' = false := by decide
  rw [smallForm] at member
  split at member
  · split at member
    · rw [List.mem_singleton.mp member]
      exact sigmas.1
    · rw [List.mem_singleton.mp member]
      exact sigmas.2
  · exact inked_of_mem_lowerChar inked member

theorem smallForm_ne_nil (before : Text) (c : Char) (rest : Text) :
    smallForm before c rest ≠ [] := by
  rw [smallForm]
  split
  · split <;> exact List.cons_ne_nil _ _
  · exact lowerChar_ne_nil c

/-- The last character comes last. -/
theorem exists_lowerFrom_concat (before text : Text) (c : Char) :
    ∃ front around, lowerFrom before (text ++ [c]) = front ++ smallForm around c [] := by
  induction text generalizing before with
  | nil => exact ⟨[], before, List.append_nil _⟩
  | cons d rest ih =>
      obtain ⟨front, around, found⟩ := ih (d :: before)
      refine ⟨smallForm before d (rest ++ [c]) ++ front, around, ?_⟩
      rw [List.cons_append, lowerFrom_cons, found, List.append_assoc]

/-! ## Blanks at the ends -/

variable {blanks : Text}

theorem lowerFrom_blanks (all : ∀ c ∈ blanks, isBlank c = true) (before : Text) :
    lowerFrom before blanks = blanks := by
  induction blanks generalizing before with
  | nil => rfl
  | cons blank rest ih =>
      rw [List.forall_mem_cons] at all
      rw [lowerFrom_cons, smallForm_of_isBlank all.1, ih all.2, List.singleton_append]

/-- Blanks before everything else make no difference. -/
theorem lowerFrom_append_before (all : ∀ c ∈ blanks, isBlank c = true) (before text : Text) :
    lowerFrom (before ++ blanks) text = lowerFrom before text := by
  induction text generalizing before with
  | nil => rfl
  | cons c rest ih =>
      have later := ih (c :: before)
      rw [List.cons_append] at later
      rw [lowerFrom_cons, lowerFrom_cons, later, smallForm, smallForm,
        meetsCased_append_blanks all]

theorem lowerFrom_append_blanks (all : ∀ c ∈ blanks, isBlank c = true) (before text : Text) :
    lowerFrom before (text ++ blanks) = lowerFrom before text ++ blanks := by
  induction text generalizing before with
  | nil => exact lowerFrom_blanks all before
  | cons c rest ih =>
      rw [List.cons_append, lowerFrom_cons, lowerFrom_cons, ih, smallForm, smallForm,
        meetsCased_append_blanks all, List.append_assoc]

theorem lowerFrom_blanks_append (all : ∀ c ∈ blanks, isBlank c = true) (before text : Text) :
    lowerFrom before (blanks ++ text) = blanks ++ lowerFrom (blanks.reverse ++ before) text := by
  induction blanks generalizing before with
  | nil => rfl
  | cons blank rest ih =>
      rw [List.forall_mem_cons] at all
      rw [List.cons_append, lowerFrom_cons, smallForm_of_isBlank all.1, ih all.2,
        List.reverse_cons, List.append_assoc, List.singleton_append, List.singleton_append,
        List.cons_append]

/-- Between blanks a text is turned into small letters on its own. -/
theorem lower_between_blanks {leading trailing : Text}
    (blanksBefore : ∀ c ∈ leading, isBlank c = true)
    (blanksAfter : ∀ c ∈ trailing, isBlank c = true) (text : Text) :
    lower (leading ++ text ++ trailing) = leading ++ lower text ++ trailing := by
  have reversed : ∀ c ∈ leading.reverse, isBlank c = true :=
    fun c member => blanksBefore c (List.mem_reverse.mp member)
  rw [lower, lowerFrom_append_blanks blanksAfter, lowerFrom_blanks_append blanksBefore,
    List.append_nil, ← List.nil_append leading.reverse, lowerFrom_append_before reversed, lower]

/-- The small letters of a text without blanks at its ends have none there either. -/
theorem strip_lower_of_stripped {text : Text} (begins : text.head?.any isBlank = false)
    (ends : text.getLast?.any isBlank = false) : strip (lower text) = lower text := by
  have inked : ∀ {before : Text} {c : Char} {rest : Text}, isBlank c = false →
      (smallForm before c rest).head?.any isBlank = false ∧
        (smallForm before c rest).getLast?.any isBlank = false := by
    intro before c rest dark
    have all : ∀ d ∈ smallForm before c rest, isBlank d = false :=
      fun d => inked_of_mem_smallForm dark
    simp only [Option.any_eq_false]
    exact ⟨fun d first => by simp [all d (List.mem_of_mem_head? first)],
      fun d last => by simp [all d (List.mem_of_mem_getLast? last)]⟩
  apply strip_eq_self
  · cases text with
    | nil => rfl
    | cons c rest =>
        have dark : isBlank c = false := by simpa using begins
        rw [lower, lowerFrom_cons, List.head?_append_of_ne_nil _ (smallForm_ne_nil _ _ _)]
        exact (inked dark).1
  · rcases List.eq_nil_or_concat' text with rfl | ⟨front, c, rfl⟩
    · rfl
    · have dark : isBlank c = false := by simpa using ends
      obtain ⟨before, around, found⟩ := exists_lowerFrom_concat [] front c
      rw [lower, found, List.getLast?_append_of_ne_nil _ (smallForm_ne_nil _ _ _)]
      exact (inked dark).2

/-- Blanks are dropped before or after a text is turned into small letters. -/
theorem strip_lower (text : Text) : strip (lower text) = lower (strip text) := by
  obtain ⟨leading, trailing, whole, blanksBefore, blanksAfter⟩ := exists_eq_strip text
  have parted : lower text = leading ++ lower (strip text) ++ trailing := by
    conv_lhs => rw [whole]
    exact lower_between_blanks blanksBefore blanksAfter (strip text)
  rw [parted, strip_append_blanks blanksAfter, strip_blanks_append blanksBefore,
    strip_lower_of_stripped (head?_strip text) (getLast?_strip text)]

theorem lower_strip_ne_nil {text : Text} (spoken : strip text ≠ []) :
    lower (strip text) ≠ [] := by
  rw [← strip_lower]
  exact strip_lower_ne_nil spoken

/-! ## Single characters -/

theorem strip_singleton {c : Char} (inked : isBlank c = false) : strip [c] = [c] :=
  strip_eq_self (by simpa using inked) (by simpa using inked)

theorem inked_of_strip_singleton {c : Char} (spoken : strip [c] ≠ []) :
    isBlank c = false := by
  by_contra blank
  exact spoken (strip_eq_nil_iff.mpr (by simpa using blank))

theorem mem_strip {content : Text} {c : Char} (member : c ∈ content)
    (inked : isBlank c = false) : c ∈ strip content := by
  obtain ⟨before, after, whole, blanksBefore, blanksAfter⟩ := exists_eq_strip content
  rw [whole, List.mem_append, List.mem_append] at member
  rcases member with (front | within) | back
  · rw [blanksBefore c front] at inked
    cases inked
  · exact within
  · rw [blanksAfter c back] at inked
    cases inked

/-! ## Lengths -/

theorem length_le_lowerFrom (before text : Text) :
    text.length ≤ (lowerFrom before text).length := by
  induction text generalizing before with
  | nil => simp
  | cons c rest ih =>
      have later := ih (c :: before)
      have here := List.length_pos_of_ne_nil (smallForm_ne_nil before c rest)
      rw [lowerFrom_cons, List.length_append, List.length_cons]
      omega

/-- The small form of one character is shorter than that of a longer text. -/
theorem length_lower_singleton_lt {c : Char} {rest : Text} (more : rest ≠ []) :
    (lower [c]).length < (lower (c :: rest)).length := by
  have alone : (lower [c]).length = (smallForm [] c rest).length := by
    rw [lower, lowerFrom_cons, List.length_append, length_smallForm [] [] c [] rest]
    rfl
  have later := length_le_lowerFrom [c] rest
  have positive := List.length_pos_of_ne_nil more
  rw [alone, lower, lowerFrom_cons, List.length_append]
  omega

end Inquiry.Text
