import Inquiry.Proofs.Safety.Quiet
import Inquiry.Proofs.Statement.Conjuncts
import Inquiry.Proofs.Statement.Placeholders

/-!
# Tests of columns

The conditions that compare a column with bound values are tests, each one conjunct wherever it
stands: the column has a point in it, so that it is no keyword, and no other letter of them
begins one.
-/

namespace Inquiry

open Statement (isNamePart)

/-- A column under the short name of its table. -/
structure Text.IsColumn (column : Text) : Prop where
  parts : ∀ c ∈ column, isNamePart c = true ∨ c = '.'
  dotted : '.' ∈ column

theorem Text.isColumn_qualified {shortName name : Text}
    (first : Vocabulary.isIdentifier shortName = true)
    (second : Vocabulary.isIdentifier name = true) : IsColumn (qualified shortName name) where
  parts := by
    intro c member
    rcases List.mem_append.mp member with front | behind
    · rcases List.mem_append.mp front with before | point
      · exact .inl (Vocabulary.parts_of_isIdentifier first c before)
      · exact .inr (List.mem_singleton.mp point)
    · exact .inl (Vocabulary.parts_of_isIdentifier second c behind)
  dotted := by simp [qualified]

namespace Text.IsColumn

variable {column : Text}

theorem isWord_of_part {c : Char} (part : isNamePart c = true) : isWord c = true := by
  rcases Bool.or_eq_true_iff.mp part with letter | underscore
  · exact Safety.isWord_of_isAlphanum letter
  · rw [beq_iff_eq.mp underscore]
    decide

theorem isNameChar (isColumn : IsColumn column) : ∀ c ∈ column, Safety.isNameChar c = true := by
  intro c member
  rcases isColumn.parts c member with part | rfl
  · rw [Safety.isNameChar, isWord_of_part part, Bool.true_or]
  · decide

theorem isBracket (isColumn : IsColumn column) : ∀ c ∈ column, Nesting.isBracket c = false := by
  intro c member
  by_contra bracket
  simp only [Nesting.isBracket, Bool.not_eq_false, Bool.or_eq_true, beq_iff_eq] at bracket
  rcases isColumn.parts c member with part | rfl
  · rcases bracket with (rfl | rfl) | rfl <;> exact absurd part (by decide)
  · exact absurd bracket (by decide)

theorem isBlank (isColumn : IsColumn column) : ∀ c ∈ column, Text.isBlank c = false := by
  intro c member
  rcases isColumn.parts c member with part | rfl
  · by_contra blank
    have gap := Safety.isWord_of_isBlank (Bool.not_eq_false _ ▸ blank)
    rw [isWord_of_part part] at gap
    cases gap
  · decide

/-- A column is one word. -/
theorem cut_eq (isColumn : IsColumn column) : Lexeme.cut column = [column] := by
  apply List.splitBy_of_isChain (List.ne_nil_of_mem isColumn.dotted)
  apply List.Pairwise.isChain
  apply List.pairwise_of_forall_mem_list
  intro left leftMember right rightMember
  rw [isColumn.isNameChar left leftMember, isColumn.isNameChar right rightMember, Bool.true_and]

theorem not_keyword (isColumn : IsColumn column) :
    column.map Char.toUpper ≠ "OR" ∧ column.map Char.toUpper ≠ "AND" := by
  have point : '.' ∈ column.map Char.toUpper := List.mem_map.mpr ⟨'.', isColumn.dotted, rfl⟩
  constructor
  all_goals
    intro same
    rw [same] at point
    exact absurd point (by decide)

/-- No word of a text is a keyword if none of its characters begins one. -/
theorem not_keyword_of_mem_cut {text : Text}
    (letters : ∀ c ∈ text, Safety.isCaseOf 'O' c = false ∧ Safety.isCaseOf 'A' c = false) :
    ∀ piece ∈ Lexeme.cut text,
      piece.map Char.toUpper ≠ "OR" ∧ piece.map Char.toUpper ≠ "AND" := by
  have keywords : "OR".toList = ['O', 'R'] ∧ "AND".toList = ['A', 'N', 'D'] := by decide
  intro piece listed
  obtain ⟨c, rest, rfl⟩ := List.exists_cons_of_ne_nil (List.ne_nil_of_mem_splitBy listed)
  have member : c ∈ text := by
    rw [← List.flatten_splitBy _ text]
    exact List.mem_flatten.mpr ⟨c :: rest, listed, List.mem_cons_self⟩
  obtain ⟨disjunction, conjunction⟩ := letters c member
  rw [keywords.1, keywords.2]
  constructor
  · intro same
    simp [Safety.isCaseOf, (List.cons.inj same).1] at disjunction
  · intro same
    simp [Safety.isCaseOf, (List.cons.inj same).1] at conjunction

/-- A column with a comparison behind it is a test, if the comparison has none of the letters
that the keywords begin with. -/
theorem isTest_append (isColumn : IsColumn column) {tail : Text} (begins : tail.head? = some ' ')
    (letters : ∀ c ∈ tail, Safety.isCaseOf 'O' c = false ∧ Safety.isCaseOf 'A' c = false)
    (closed : ∀ nesting : Nesting, nesting.after tail = nesting)
    (ends : tail.getLast?.any Text.isBlank = false) : (column ++ tail).IsTest := by
  have nonempty : column ≠ [] := List.ne_nil_of_mem isColumn.dotted
  have inhabited : tail ≠ [] := by
    rintro rfl
    cases begins
  have pieces : Lexeme.cut (column ++ tail) = column :: Lexeme.cut tail := by
    rw [Lexeme.cut_append (.inr (by rw [begins]; decide)), isColumn.cut_eq, List.singleton_append]
  constructor
  case quiet =>
    rw [pieces, List.forall_mem_cons]
    exact ⟨isColumn.not_keyword, not_keyword_of_mem_cut letters⟩
  case closed =>
    intro nesting
    rw [Nesting.after_append, Nesting.after_of_plain isColumn.isBracket, closed]
  case stripped =>
    apply Text.strip_eq_self
    · rw [List.head?_append_of_ne_nil _ nonempty]
      exact Text.head?_of_outside isColumn.isBlank
    · rwa [List.getLast?_append_of_ne_nil _ inhabited]
  case nonempty => exact List.append_ne_nil_of_left_ne_nil nonempty _

end Text.IsColumn

namespace Condition

variable {column : Text}

theorem letters_of_placeholder {style : ParamStyle} {position : Nat} {c : Char}
    (member : c ∈ style.placeholder position) :
    Safety.isCaseOf 'O' c = false ∧ Safety.isCaseOf 'A' c = false := by
  rcases Safety.marks_placeholder style position c member with rfl | rfl | digit
  · decide
  · decide
  · constructor
    all_goals
      by_contra same
      rw [Safety.isDigit_of_isCaseOf (by decide) (Bool.not_eq_false _ ▸ same)] at digit
      cases digit

theorem brackets_of_placeholder {style : ParamStyle} {position : Nat} {c : Char}
    (member : c ∈ style.placeholder position) : Nesting.isBracket c = false := by
  rcases Safety.marks_placeholder style position c member with rfl | rfl | digit
  · decide
  · decide
  · by_contra bracket
    simp only [Nesting.isBracket, Bool.not_eq_false, Bool.or_eq_true, beq_iff_eq] at bracket
    rcases bracket with (rfl | rfl) | rfl <;> exact absurd digit (by decide)

theorem placeholder_ne_nil (style : ParamStyle) (position : Nat) :
    style.placeholder position ≠ [] := by
  cases style
  · exact List.cons_ne_nil _ _
  · exact List.cons_ne_nil _ _

/-- The last character of a placeholder is its sign or a digit. -/
theorem last_placeholder (style : ParamStyle) (position : Nat) :
    ∃ c, (style.placeholder position).getLast? = some c ∧ Text.isBlank c = false ∧ c ≠ ')' := by
  obtain ⟨front, c, whole⟩ :=
    (List.eq_nil_or_concat' _).resolve_left (placeholder_ne_nil style position)
  have kinds := Safety.marks_placeholder style position c (by simp [whole])
  refine ⟨c, by rw [whole, List.getLast?_concat], ?_⟩
  rcases kinds with rfl | rfl | digit
  · decide
  · decide
  · refine ⟨Safety.isBlank_of_isDigit digit, ?_⟩
    rintro rfl
    exact absurd digit (by decide)

theorem isTest_equals (isColumn : column.IsColumn) (value : Text) (style : ParamStyle)
    (bound : Nat) : ((equals column value).render style bound).IsTest := by
  obtain ⟨last, ends, solid, -⟩ := last_placeholder style (bound + 1)
  have written : (equals column value).render style bound =
      column ++ (" = ".toList ++ style.placeholder (bound + 1)) :=
    List.append_assoc _ _ _
  rw [written]
  apply isColumn.isTest_append
  case begins => rfl
  case letters =>
    have sign : ∀ c ∈ " = ".toList,
        Safety.isCaseOf 'O' c = false ∧ Safety.isCaseOf 'A' c = false := by
      simp only [← Bool.or_eq_false_iff]
      exact Text.forall_not_of_all (by decide)
    exact List.forall_mem_append.mpr ⟨sign, fun c member => letters_of_placeholder member⟩
  case closed =>
    intro nesting
    apply Nesting.after_of_plain
    exact List.forall_mem_append.mpr
      ⟨Text.forall_not_of_all (by decide), fun c member => brackets_of_placeholder member⟩
  case ends =>
    rw [List.getLast?_append_of_ne_nil _ (placeholder_ne_nil style _), ends]
    simpa using solid

theorem isTest_among (isColumn : column.IsColumn) (values : List Text) (style : ParamStyle)
    (bound : Nat) : ((among column values).render style bound).IsTest := by
  have listed : ∀ c ∈ Text.join ", " (style.placeholders bound values.length),
      c ∈ ", ".toList ∨ ∃ position, c ∈ style.placeholder position := by
    intro c member
    rw [style.placeholders_eq] at member
    rcases Text.mem_join member with separator | ⟨piece, found, within⟩
    · exact .inl separator
    · obtain ⟨position, -, rfl⟩ := List.mem_map.mp found
      exact .inr ⟨position, within⟩
  have written : (among column values).render style bound = column ++ (" IN ".toList ++
      '(' :: (Text.join ", " (style.placeholders bound values.length) ++ [')'])) := by
    have keyword : " IN (".toList = " IN ".toList ++ ['('] := by decide
    rw [render, keyword]
    simp only [List.append_assoc]
    rfl
  rw [written]
  apply isColumn.isTest_append
  case begins => rfl
  case letters =>
    have fixed : ∀ {text : Text},
        text.all (fun c => !(Safety.isCaseOf 'O' c || Safety.isCaseOf 'A' c)) = true →
        ∀ c ∈ text, Safety.isCaseOf 'O' c = false ∧ Safety.isCaseOf 'A' c = false := by
      intro text all c member
      exact Bool.or_eq_false_iff.mp (Text.forall_not_of_all all c member)
    rw [List.forall_mem_append, List.forall_mem_cons, List.forall_mem_append]
    refine ⟨fixed (by decide), by decide, ?_, fixed (by decide)⟩
    intro c member
    rcases listed c member with separator | ⟨position, within⟩
    · exact fixed (by decide) c separator
    · exact letters_of_placeholder within
  case closed =>
    intro nesting
    have keyword : ∀ c ∈ " IN ".toList, Nesting.isBracket c = false :=
      Text.forall_not_of_all (by decide)
    have separators : ∀ c ∈ ", ".toList, Nesting.isBracket c = false :=
      Text.forall_not_of_all (by decide)
    have inner : ∀ c ∈ Text.join ", " (style.placeholders bound values.length),
        Nesting.isBracket c = false := by
      intro c member
      rcases listed c member with separator | ⟨position, within⟩
      · exact separators c separator
      · exact brackets_of_placeholder within
    rw [Nesting.after_append, Nesting.after_of_plain keyword, Nesting.after_parenthesised inner]
  case ends =>
    rw [← List.cons_append, ← List.append_assoc, List.getLast?_concat]
    decide

end Condition

end Inquiry
