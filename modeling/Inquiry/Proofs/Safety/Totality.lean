import Inquiry.Proofs.Decimal.Overlong
import Inquiry.Proofs.Safety.Numbering
import Inquiry.Proofs.Safety.RowLimit

/-!
# Where the gate comes to a verdict

The gate reads two sorts of numbers in a statement, the row limit at its end and the numbers of
its placeholders.  Both are checked for digits before they are read, so nothing can go wrong with
them but their length.

Digits that are too many stop the gate: it then lists no violation at all, neither of the number
nor of anything else in the statement.
-/

namespace Inquiry

namespace Safety

variable {text : Text}

/-! ## The row limit at the end -/

/-- The text ends with the keyword of row limits, blanks and a last word, and nothing but blanks
follows the word. -/
def EndsWithLimit (text literal : Text) : Prop :=
  ∃ (limit : LimitWord text) (gap rest : Text), limit.after = gap ++ (literal ++ rest) ∧
    gap ≠ [] ∧ (∀ c ∈ gap, Text.isBlank c = true) ∧ literal ≠ [] ∧
    (∀ c ∈ literal, Text.isBlank c = false) ∧ ∀ c ∈ rest, Text.isBlank c = true

/-- The keyword and the last word stand in the stripped text, and nothing follows them there. -/
theorem exists_limitWord_strip (limit : LimitWord text) {gap literal rest : Text}
    (behind : limit.after = gap ++ (literal ++ rest)) (spaced : gap ≠ [])
    (blank : ∀ c ∈ gap, Text.isBlank c = true) (nonempty : literal ≠ [])
    (solid : ∀ c ∈ literal, Text.isBlank c = false)
    (blankRest : ∀ c ∈ rest, Text.isBlank c = true) :
    ∃ keyword : LimitWord (Text.strip text), keyword.after = gap ++ literal := by
  obtain ⟨leading, trailing, parted, blanksBefore, blanksAfter⟩ := Text.exists_eq_strip text
  have whole : leading ++ (Text.strip text ++ trailing) =
      limit.before ++ ((limit.word ++ (gap ++ literal)) ++ rest) := by
    rw [← List.append_assoc, ← parted]
    conv => lhs; rw [limit.whole, behind]
    simp only [List.append_assoc]
  have begins : (limit.word ++ (gap ++ literal)).head?.any Text.isBlank = false := by
    rw [List.head?_append_of_ne_nil _ limit.word_ne_nil]
    exact Text.head?_of_outside limit.solid
  have ends : (limit.word ++ (gap ++ literal)).getLast?.any Text.isBlank = false := by
    rw [List.getLast?_append_of_ne_nil _ (List.append_ne_nil_of_right_ne_nil _ nonempty),
      List.getLast?_append_of_ne_nil _ nonempty]
    exact Text.getLast?_of_outside solid
  obtain ⟨front, back, stripped, moved, movedBack⟩ := Text.exists_parted_between whole
    blanksBefore blanksAfter (List.append_ne_nil_of_left_ne_nil limit.word_ne_nil _) begins ends
  -- Only blanks follow the last word, and none of them is at the end of a stripped text.
  have ended : back = [] := by
    rcases List.eq_nil_or_concat' back with same | ⟨others, c, rfl⟩
    · exact same
    · have last := Text.getLast?_strip text
      rw [stripped, ← List.append_assoc, ← List.append_assoc, List.getLast?_concat] at last
      have trails := blankRest c (by simp [movedBack])
      simp [trails] at last
  subst ended
  rw [List.append_nil] at stripped
  have starts : startsWord front.getLast? = true := by
    rw [← startsWord_of_blanks blanksBefore, ← moved]
    exact limit.starts
  have endsThere : endsWord (gap ++ literal) = true := by
    obtain ⟨c, others, rfl⟩ := List.exists_cons_of_ne_nil spaced
    exact endsWord_of_blank (by simpa using blank c List.mem_cons_self)
  exact ⟨⟨front, limit.word, gap ++ literal, stripped, starts, limit.spelling, endsThere⟩, rfl⟩

/-- Blanks around a text hide neither the keyword nor the last word from the gate. -/
theorem finalLimit_strip_iff {literal : Text} :
    finalLimit? (Text.strip text) = some literal ↔ EndsWithLimit text literal := by
  constructor
  · intro found
    obtain ⟨leading, trailing, parted, blanksBefore, blanksAfter⟩ := Text.exists_eq_strip text
    rw [List.append_assoc] at parted
    generalize Text.strip text = inner at parted found
    subst parted
    obtain ⟨limit, gap, behind, spaced, blank, nonempty, solid⟩ := exists_of_finalLimit found
    refine ⟨limit.within blanksBefore blanksAfter, gap, trailing, ?_, spaced, blank, nonempty,
      solid, blanksAfter⟩
    change limit.after ++ trailing = _
    rw [behind, List.append_assoc]
  · rintro ⟨limit, gap, rest, behind, spaced, blank, nonempty, solid, blankRest⟩
    obtain ⟨keyword, follows⟩ :=
      exists_limitWord_strip limit behind spaced blank nonempty solid blankRest
    exact finalLimit_of_limitWord keyword follows spaced blank nonempty solid

/-- The text ends with a row limit of more digits than are read. -/
def EndsOverlong (text : Text) : Prop :=
  ∃ digits, EndsWithLimit text digits ∧ Decimal.IsOverlong digits

/-! ## The numbers of placeholders -/

/-- The numbers of the placeholders are read, since there are as many as parameters, and one of
them has more digits than are read. -/
def NumbersOverlong (style : Option ParamStyle) (sql : Text) (parameters : List Value) : Prop :=
  style = some .dollar ∧ (numberedMarks sql).length = parameters.length ∧
    ∃ digits ∈ numberedMarks sql, Decimal.digitLimit < digits.length

/-- What follows the sign of a numbered placeholder are digits. -/
theorem digits_of_mem_numberedMarks {digits : Text} (member : digits ∈ numberedMarks text) :
    digits ≠ [] ∧ (∀ c ∈ digits, Text.isDecimal c = true) ∧ '$' :: digits <:+: text := by
  induction text with
  | nil => cases member
  | cons c rest ih =>
      have later (found : digits ∈ numberedMarks rest) : digits ≠ [] ∧
          (∀ c ∈ digits, Text.isDecimal c = true) ∧ '$' :: digits <:+: c :: rest :=
        ⟨(ih found).1, (ih found).2.1, (ih found).2.2.trans (List.suffix_cons c rest).isInfix⟩
      rw [numberedMarks] at member
      split at member
      next sign =>
        simp only [List.isEmpty_iff] at member
        split at member
        · exact later member
        next nonempty =>
          rcases List.mem_cons.mp member with rfl | found
          · refine ⟨nonempty, fun _ => List.mem_takeWhile_imp, ?_⟩
            rw [sign]
            exact (List.cons_prefix_cons.mpr ⟨rfl, List.takeWhile_prefix _⟩).isInfix
          · exact later found
      next => exact later member

theorem hinges_placeholderNumbers (text : Text) :
    Outcome.Hinges Fault.IsOverlong (fun _ => False)
      (∀ digits ∈ numberedMarks text, digits.length ≤ Decimal.digitLimit)
      (placeholderNumbers text) := by
  apply Outcome.Hinges.mapM
  intro digits member
  obtain ⟨nonempty, decimal, -⟩ := digits_of_mem_numberedMarks member
  rw [Decimal.readNat_of_decimals nonempty decimal]
  by_cases short : digits.length ≤ Decimal.digitLimit
  · rw [if_pos short]
    exact .ok short _
  · rw [if_neg short]
    exact .error_of_not (Nat.lt_of_not_le short) short

theorem hinges_placeholderViolations (style : Option ParamStyle) (sql : Text)
    (parameters : List Value) :
    Outcome.Hinges Fault.IsOverlong (fun _ => False) (¬NumbersOverlong style sql parameters)
      (placeholderViolations style (Text.strip sql) parameters) := by
  rw [NumbersOverlong, ← numberedMarks_strip sql, placeholderViolations]
  generalize Text.strip sql = text
  by_cases numbered : style = some .dollar
  · subst numbered
    have counted : countPlaceholders (some .dollar) text = (numberedMarks text).length := rfl
    rw [counted]
    split
    next differ => exact .ok (fun overlong => differ overlong.2.1) _
    next agree =>
      rw [ne_eq, not_not] at agree
      refine ((hinges_placeholderNumbers text).bind_true fun numbers _ => .ok trivial _).congr ?_
      simp [agree]
  · rw [if_neg numbered]
    split
    · exact .ok (fun overlong => numbered overlong.1) _
    · exact .ok (fun overlong => numbered overlong.1) _

/-! ## The verdict -/

theorem hinges_check (vocabulary : Vocabulary) (style : Option ParamStyle) (sql : Text)
    (parameters : List Value) :
    Outcome.Hinges Fault.IsOverlong (fun _ => False)
      (¬EndsOverlong sql ∧ ¬NumbersOverlong style sql parameters)
      (check vocabulary style sql parameters) := by
  have limits : Outcome.Hinges Fault.IsOverlong (fun _ => False) (¬EndsOverlong sql)
      (limitViolations vocabulary.limits.maximum (Text.strip sql)) := by
    simp only [EndsOverlong, ← finalLimit_strip_iff]
    exact hinges_limitViolations _ _
  exact limits.bind fun _ _ =>
    (hinges_placeholderViolations style sql parameters).bind_true fun _ _ => .ok trivial _

/-- The gate lists the violations of every text that can be given to it, unless it comes across a
number of more digits than are read, and no other fault occurs. -/
theorem exists_check_iff (vocabulary : Vocabulary) (style : Option ParamStyle) (sql : Text)
    (parameters : List Value) :
    ((∃ violations, check vocabulary style sql parameters = .ok violations) ↔
        ¬EndsOverlong sql ∧ ¬NumbersOverlong style sql parameters) ∧
      ∀ fault, check vocabulary style sql parameters = .error fault → fault.IsOverlong :=
  ⟨(hinges_check vocabulary style sql parameters).exists_iff,
    (hinges_check vocabulary style sql parameters).possible_of_error⟩

/-! ## Statements that stop the gate -/

/-- A statement with a row limit in a line of its own. -/
def withLimit (statement literal : Text) : Text :=
  statement ++ ("\nLIMIT " ++ literal)

theorem endsWithLimit_withLimit (statement : Text) {literal : Text} (nonempty : literal ≠ [])
    (solid : ∀ c ∈ literal, Text.isBlank c = false) :
    EndsWithLimit (withLimit statement literal) literal := by
  let limit : LimitWord (withLimit statement literal) :=
    { before := statement ++ ['\n']
      word := "LIMIT"
      after := " " ++ literal
      whole := by simp [withLimit]
      starts := by
        rw [List.getLast?_concat]
        decide
      spelling := by decide
      ends := rfl }
  exact ⟨limit, " ", [], by rw [List.append_nil], by decide,
    List.forall_mem_singleton.mpr (by decide), nonempty, solid, by simp⟩

/-- A statement whose one placeholder has the given digits. -/
def comparedTo (digits : Text) : Text :=
  "SELECT s.title\nFROM sites AS s\nWHERE s.code =" ++ ' ' :: '$' :: digits

theorem numberedMarks_comparedTo {digits : Text} (nonempty : digits ≠ [])
    (all : ∀ c ∈ digits, Text.isDecimal c = true) :
    numberedMarks (comparedTo digits) = [digits] := by
  have absent : '$' ∉ "SELECT s.title\nFROM sites AS s\nWHERE s.code =".toList := by decide
  have blank : Text.isDecimal ' ' = false := by decide
  have parted : numberedMarks (comparedTo digits) =
      numberedMarks "SELECT s.title\nFROM sites AS s\nWHERE s.code =".toList ++
        numberedMarks ('$' :: digits) :=
    numberedMarks_append_cons blank (by decide) _ _
  rw [parted, numberedMarks_of_not_mem absent, numberedMarks_sign nonempty all, List.nil_append]

/-- A row limit with one digit too many stops the gate, and so does the number one with as many
zeros in front as a number may have digits. -/
theorem overlong_stops :
    Vocabulary.read Vocabulary.sampleSource = .ok Vocabulary.sampleVocabulary ∧
      (¬∃ violations, check Vocabulary.sampleVocabulary (some .dollar)
        (withLimit "SELECT s.title\nFROM sites AS s" (List.replicate 4301 '1')) [] =
          .ok violations) ∧
      ¬∃ violations, check Vocabulary.sampleVocabulary (some .dollar)
        (comparedTo (List.replicate 4300 '0' ++ ['1'])) [.text "hr"] = .ok violations := by
  refine ⟨Vocabulary.read_sampleSource, ?_, ?_⟩
  · have overlong : Decimal.IsOverlong (List.replicate 4301 '1') :=
      Decimal.isOverlong_replicate (by decide)
    obtain ⟨nonempty, plain⟩ := Decimal.isPlain_iff.mp overlong.1
    rw [(hinges_check _ _ _ _).exists_iff]
    exact fun readable => readable.1 ⟨_, endsWithLimit_withLimit _ nonempty
      fun c member => isBlank_of_isDigit (plain c member), overlong⟩
  · have marks : numberedMarks (comparedTo (List.replicate 4300 '0' ++ ['1'])) =
        [List.replicate 4300 '0' ++ ['1']] := by
      apply numberedMarks_comparedTo
      · exact List.append_ne_nil_of_right_ne_nil _ (List.cons_ne_nil _ _)
      · refine List.forall_mem_append.mpr ⟨fun c member => ?_, ?_⟩
        · rw [List.eq_of_mem_replicate member]
          rfl
        · exact List.forall_mem_singleton.mpr rfl
    rw [(hinges_check _ _ _ _).exists_iff]
    refine fun readable =>
      readable.2 ⟨rfl, ?_, List.replicate 4300 '0' ++ ['1'], ?_, ?_⟩
    · rw [marks]
      rfl
    · rw [marks]
      exact List.mem_singleton_self _
    · rw [List.length_append, List.length_replicate]
      decide

end Safety

end Inquiry
