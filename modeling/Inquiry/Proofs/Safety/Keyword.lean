import Inquiry.Proofs.Decimal.Integer
import Inquiry.Proofs.Text.Case
import Inquiry.Proofs.Text.Runs
import Inquiry.Safety.Gate

/-!
# Keywords as words

Where a keyword is recognised in a text, one of the words of the text spells it.
The safety gate therefore finds no keyword in a text whose words spell none.
-/

namespace Inquiry.Safety

/-- A word that spells one of the keywords, in any case. -/
def spells (keywords : List Text) (word : Text) : Bool :=
  keywords.any fun keyword => spelled? keyword word == some (word, [])

/-- The words of a text that spell one of the keywords. -/
def keywordsIn (keywords : List Text) (text : Text) : List Text :=
  (Text.runs Text.isWord text).filter (spells keywords)

/-! ## One keyword -/

/-- The characters are cases of the letters of a keyword, one by one. -/
def Spelling (keyword word : Text) : Prop :=
  List.Forall₂ (fun letter c => isCaseOf letter c = true) keyword word

theorem spelled_eq_some_iff {keyword text found rest : Text} :
    spelled? keyword text = some (found, rest) ↔ text = found ++ rest ∧ Spelling keyword found := by
  rw [Spelling]
  induction keyword generalizing text found with
  | nil =>
      rw [List.forall₂_nil_left_iff]
      constructor
      · intro success
        cases success
        exact ⟨rfl, rfl⟩
      · rintro ⟨rfl, rfl⟩
        rfl
  | cons letter keyword ih =>
      rw [List.forall₂_cons_left_iff]
      cases text with
      | nil =>
          constructor
          · intro success
            cases success
          · rintro ⟨whole, c, others, -, -, rfl⟩
            cases whole
      | cons c text =>
          rw [spelled?]
          constructor
          · intro success
            split at success
            next same =>
              obtain ⟨⟨others, _⟩, continued, whole⟩ := Option.map_eq_some_iff.mp success
              cases whole
              obtain ⟨rfl, spelled⟩ := ih.mp continued
              exact ⟨rfl, c, others, same, spelled, rfl⟩
            next => cases success
          · rintro ⟨whole, d, others, same, spelled, rfl⟩
            rw [List.cons_append] at whole
            obtain ⟨rfl, rfl⟩ := List.cons.inj whole
            rw [if_pos same, ih.mpr ⟨rfl, spelled⟩]
            rfl

theorem spelled_eq_some {keyword text found rest : Text}
    (success : spelled? keyword text = some (found, rest)) :
    text = found ++ rest ∧ spelled? keyword found = some (found, []) := by
  obtain ⟨parted, spelling⟩ := spelled_eq_some_iff.mp success
  exact ⟨parted, spelled_eq_some_iff.mpr ⟨(List.append_nil found).symm, spelling⟩⟩

theorem spells_iff {keywords : List Text} {word : Text} :
    spells keywords word = true ↔ ∃ keyword ∈ keywords, Spelling keyword word := by
  simp [spells, spelled_eq_some_iff]

instance (keyword word : Text) : Decidable (Spelling keyword word) :=
  decidable_of_iff (spelled? keyword word = some (word, [])) (by simp [spelled_eq_some_iff])

theorem Spelling.exists_letter {keyword word : Text} (spelling : Spelling keyword word) {c : Char}
    (member : c ∈ word) : ∃ letter ∈ keyword, isCaseOf letter c = true := by
  induction spelling with
  | nil => cases member
  | @cons letter d keyword word same spelling ih =>
      rcases List.mem_cons.mp member with rfl | later
      · exact ⟨letter, List.mem_cons_self, same⟩
      · obtain ⟨other, listed, found⟩ := ih later
        exact ⟨other, List.mem_cons_of_mem _ listed, found⟩

theorem isWord_of_isAlphanum {c : Char} (part : c.isAlphanum = true) : Text.isWord c = true := by
  simp [Text.isWord, Text.ascii_of_isAlphanum part, part]

theorem isWord_of_isAlpha {c : Char} (letter : c.isAlpha = true) : Text.isWord c = true :=
  isWord_of_isAlphanum (by rw [Char.isAlphanum, letter, Bool.true_or])

theorem isAlpha_of_toUpper {c : Char} (capital : c.toUpper.isUpper = true) :
    c.isAlpha = true := by
  rwa [Char.isUpper_toUpper_eq_isAlpha] at capital

theorem isWord_of_isCaseOf {letter c : Char} (capital : letter.isUpper = true)
    (same : isCaseOf letter c = true) : Text.isWord c = true := by
  simp only [isCaseOf, Bool.or_eq_true, Bool.and_eq_true, beq_iff_eq] at same
  rcases same with ((upper | ⟨-, rfl | rfl⟩) | ⟨-, rfl⟩) | ⟨-, rfl⟩
  · exact isWord_of_isAlpha (isAlpha_of_toUpper (upper ▸ capital))
  · decide +kernel
  · decide +kernel
  · decide +kernel
  · decide +kernel

theorem isDigit_of_isCaseOf {letter c : Char} (capital : letter.isUpper = true)
    (same : isCaseOf letter c = true) : c.isDigit = false := by
  simp only [isCaseOf, Bool.or_eq_true, Bool.and_eq_true, beq_iff_eq] at same
  rcases same with ((upper | ⟨-, rfl | rfl⟩) | ⟨-, rfl⟩) | ⟨-, rfl⟩
  · have letter : c.isAlpha = true := isAlpha_of_toUpper (upper ▸ capital)
    by_contra digit
    simp only [Char.isAlpha, Char.isUpper, Char.isLower, Char.isDigit, Bool.or_eq_true,
      Bool.and_eq_true, decide_eq_true_eq, Bool.not_eq_false, ge_iff_le,
      UInt32.le_iff_toNat_le] at letter digit
    have first : 'A'.val.toNat = 65 ∧ 'a'.val.toNat = 97 ∧ '9'.val.toNat = 57 :=
      ⟨rfl, rfl, rfl⟩
    omega
  · decide
  · decide
  · decide
  · decide

/-- What spells a keyword in capital letters consists of word characters. -/
theorem isWord_of_spelled {keyword word rest : Text}
    (capitals : ∀ letter ∈ keyword, letter.isUpper = true)
    (success : spelled? keyword word = some (word, rest)) :
    ∀ c ∈ word, Text.isWord c = true := by
  intro c member
  obtain ⟨letter, listed, same⟩ := (spelled_eq_some_iff.mp success).2.exists_letter member
  exact isWord_of_isCaseOf (capitals letter listed) same

/-! ## Keywords in a text -/

variable {keywords : List Text} {text : Text}

/-- A keyword that starts and ends with a word is one of the words. -/
theorem mem_keywordsIn {keyword before word after : Text} (member : keyword ∈ keywords)
    (nonempty : keyword ≠ []) (capitals : ∀ letter ∈ keyword, letter.isUpper = true)
    (success : spelled? keyword word = some (word, []))
    (starts : startsWord before.getLast? = true) (ends : endsWord after = true) :
    word ∈ keywordsIn keywords (before ++ (word ++ after)) := by
  have inhabited : word ≠ [] := by
    rintro rfl
    cases keyword with
    | nil => exact nonempty rfl
    | cons letter keyword => simp [spelled?] at success
  have spelling : spells keywords word = true :=
    List.any_eq_true.mpr ⟨keyword, member, by simp [success]⟩
  have run : word ∈ Text.runs Text.isWord (before ++ (word ++ after)) :=
    Text.mem_runs inhabited (isWord_of_spelled capitals success)
      (by simpa [startsWord] using starts) (by simpa [endsWord] using ends)
  exact List.mem_filter.mpr ⟨run, spelling⟩

/-- No keyword is spelled from a word start to a word end. -/
theorem not_spelled (none : keywordsIn keywords text = []) {keyword : Text}
    (member : keyword ∈ keywords) (nonempty : keyword ≠ [])
    (capitals : ∀ letter ∈ keyword, letter.isUpper = true) {before after found rest : Text}
    (parted : text = before ++ after) (starts : startsWord before.getLast? = true)
    (success : spelled? keyword after = some (found, rest)) : endsWord rest = false := by
  by_contra ends
  obtain ⟨rfl, alone⟩ := spelled_eq_some success
  have word := mem_keywordsIn member nonempty capitals alone starts
    (Bool.not_eq_false _ ▸ ends)
  rw [← parted, none] at word
  exact absurd word List.not_mem_nil

/-- A probe that finds nothing at the positions of a text passes over the text. -/
theorem firstAt_append {α : Type} {probe : Option Char → Text → Option α}
    {previous : Option Char} {text rest : Text}
    (silent : ∀ before after, text = before ++ after → after ≠ [] →
      probe (before.getLast?.or previous) (after ++ rest) = none) :
    firstAt probe previous (text ++ rest) = firstAt probe (text.getLast?.or previous) rest := by
  induction text generalizing previous with
  | nil => rfl
  | cons c text ih =>
      have here := silent [] (c :: text) rfl (by simp)
      have later : firstAt probe (some c) (text ++ rest) =
          firstAt probe (text.getLast?.or (some c)) rest := by
        apply ih
        intro before after parted nonempty
        have moved := silent (c :: before) after (by rw [parted, List.cons_append]) nonempty
        simpa [List.getLast?_cons] using moved
      simp only [List.getLast?_nil, Option.none_or, List.cons_append] at here
      rw [List.cons_append, firstAt, here, Option.orElse_none, later]
      simp [List.getLast?_cons]

/-- A probe that finds nothing at any position of a text finds nothing in it. -/
theorem find_eq_none {α : Type} {probe : Option Char → Text → Option α} {text : Text}
    (silent : ∀ before after, text = before ++ after → probe before.getLast? after = none) :
    find? probe text = none := by
  have passed : firstAt probe none (text ++ []) = firstAt probe (text.getLast?.or none) [] := by
    apply firstAt_append
    intro before after parted _
    simpa using silent before after parted
  have final := silent text [] (List.append_nil text).symm
  rw [List.append_nil, Option.or_none] at passed
  rw [find?, passed]
  exact final

/-! ## The checks for keywords -/

/-- The code points of all blanks. -/
def blankPoints : List Nat :=
  [9, 10, 11, 12, 13, 28, 29, 30, 31, 32, 0x85, 0xA0, 0x1680, 0x2000, 0x2001, 0x2002,
   0x2003, 0x2004, 0x2005, 0x2006, 0x2007, 0x2008, 0x2009, 0x200A, 0x2028, 0x2029, 0x202F,
   0x205F, 0x3000]

/-- A class that leaves out every one of the blanks has no blank in it. -/
theorem outside_of_isBlank {inClass : Char → Bool}
    (outside : ∀ point ∈ blankPoints, inClass (Char.ofNat point) = false) {c : Char}
    (blank : Text.isBlank c = true) : inClass c = false := by
  have listed : c.toNat ∈ blankPoints := by
    simp only [Text.isBlank, Bool.or_eq_true, Bool.and_eq_true, decide_eq_true_eq,
      beq_iff_eq] at blank
    simp only [blankPoints, List.mem_cons, List.not_mem_nil, or_false]
    omega
  simpa [Char.ofNat_toNat] using outside c.toNat listed

theorem isWord_of_isBlank {c : Char} (blank : Text.isBlank c = true) :
    Text.isWord c = false :=
  outside_of_isBlank (by decide +kernel) blank

theorem isDecimal_of_isBlank {c : Char} (blank : Text.isBlank c = true) :
    Text.isDecimal c = false :=
  outside_of_isBlank (by decide +kernel) blank

theorem isBlank_of_isDecimal {c : Char} (decimal : Text.isDecimal c = true) :
    Text.isBlank c = false := by
  by_contra blank
  rw [isDecimal_of_isBlank (Bool.not_eq_false _ ▸ blank)] at decimal
  cases decimal

theorem isBlank_of_isDigit {c : Char} (digit : c.isDigit = true) : Text.isBlank c = false :=
  isBlank_of_isDecimal (Decimal.isDecimal_of_isDigit digit)

theorem blanks_parted {text blanks rest : Text} (success : blanks? text = some (blanks, rest)) :
    text = blanks ++ rest ∧ blanks ≠ [] ∧ ∀ c ∈ blanks, Text.isBlank c = true := by
  simp only [blanks?] at success
  split at success
  · cases success
  next some =>
    cases success
    refine ⟨(List.takeWhile_append_dropWhile ..).symm, by simpa using some, ?_⟩
    exact fun c => List.mem_takeWhile_imp

theorem blanks_eq_some {text blanks rest : Text}
    (success : blanks? text = some (blanks, rest)) :
    text.head?.any Text.isBlank = true := by
  obtain ⟨rfl, nonempty, all⟩ := blanks_parted success
  obtain ⟨c, others, rfl⟩ := List.exists_cons_of_ne_nil nonempty
  simpa using all c List.mem_cons_self

theorem endsWord_of_blank {text : Text} (blank : text.head?.any Text.isBlank = true) :
    endsWord text = true := by
  cases text with
  | nil => simp at blank
  | cons c text => simpa [endsWord] using isWord_of_isBlank (by simpa using blank)

/-- A phrase begins with its first keyword, and blanks follow unless it is the only one. -/
theorem phrase_eq_some {first : Text} {more : List Text} {text found rest : Text}
    (success : phrase? (first :: more) text = some (found, rest)) :
    ∃ word after, spelled? first text = some (word, after) ∧
      (after = rest ∨ endsWord after = true) := by
  cases more with
  | nil => exact ⟨found, rest, success, .inl rfl⟩
  | cons second others =>
      obtain ⟨⟨word, after⟩, spelled, success⟩ := Option.bind_eq_some_iff.mp success
      obtain ⟨⟨blanks, _⟩, blank, -⟩ := Option.bind_eq_some_iff.mp success
      exact ⟨word, after, spelled, .inr (endsWord_of_blank (blanks_eq_some blank))⟩

/-- The first keyword of every dangerous phrase. -/
def dangerousKeywords : List Text :=
  dangerousPhrases.filterMap List.head?

theorem dangerous_eq_none (none : keywordsIn dangerousKeywords text = []) :
    dangerous? text = .none := by
  have usable : ∀ keyword ∈ dangerousKeywords,
      keyword ≠ [] ∧ ∀ letter ∈ keyword, letter.isUpper = true := by
    simp only [← List.all_eq_true]
    decide
  have worded : ∀ phrase ∈ dangerousPhrases, phrase ≠ [] := by
    decide
  apply find_eq_none
  intro before after parted
  by_cases starts : startsWord before.getLast? = true
  · rw [starts]
    apply List.findSome?_eq_none_iff.mpr
    intro phrase listed
    cases phrase with
    | nil => exact absurd rfl (worded [] listed)
    | cons first more =>
        have member : first ∈ dangerousKeywords :=
          List.mem_filterMap.mpr ⟨first :: more, listed, rfl⟩
        obtain ⟨nonempty, capitals⟩ := usable first member
        split
        next found rest success =>
          obtain ⟨word, others, spelled, place⟩ := phrase_eq_some success
          have inside : endsWord others = false :=
            not_spelled none member nonempty capitals parted starts spelled
          rcases place with rfl | ends
          · simp [inside]
          · simp [inside] at ends
        next => rfl
  · simp [starts]

theorem hasLimit_eq_false (none : keywordsIn [limitKeyword] text = []) :
    hasLimit text = false := by
  rw [hasLimit, Option.isSome_eq_false_iff, Option.isNone_iff_eq_none]
  apply find_eq_none
  intro before after parted
  by_cases starts : startsWord before.getLast? = true
  · cases success : spelled? limitKeyword after with
    | none => simp
    | some spelled =>
        have inside : endsWord spelled.2 = false :=
          not_spelled none (by simp) (by decide) (List.all_eq_true.mp (by decide)) parted starts
            success
        simp [inside]
  · simp [starts]

theorem blanks_suffix {text blanks rest : Text} (success : blanks? text = some (blanks, rest)) :
    rest <:+ text :=
  ⟨blanks, (blanks_parted success).1.symm⟩

theorem selectsStar_eq_false (absent : '*' ∉ text) : selectsStar text = false := by
  rw [selectsStar, Option.isSome_eq_false_iff, Option.isNone_iff_eq_none]
  apply find_eq_none
  rintro before after rfl
  cases spelled : spelled? selectKeyword after with
  | none => simp
  | some parts =>
      obtain ⟨word, rest⟩ := parts
      obtain ⟨rfl, -⟩ := spelled_eq_some spelled
      cases blank : blanks? rest with
      | none => simp [blank]
      | some parts =>
          have other : parts.2.head? ≠ some '*' := by
            intro star
            have member := (blanks_suffix blank).subset (List.mem_of_head? star)
            exact absent (by simp [member])
          simp [blank, other]

/-! ## The row limit at the end -/

/-- A keyword does not reach across a character that is no case of its letters. -/
theorem spelled_append_cons {keyword left found rest : Text} {c : Char}
    (outside : ∀ letter ∈ keyword, isCaseOf letter c = false) (right : Text)
    (success : spelled? keyword (left ++ c :: right) = some (found, rest)) :
    ∃ others, spelled? keyword left = some (found, others) ∧ rest = others ++ c :: right := by
  obtain ⟨parted, spelling⟩ := spelled_eq_some_iff.mp success
  rcases List.append_eq_append_iff.mp parted with ⟨middle, rfl, whole⟩ | ⟨others, rfl, rfl⟩
  · cases middle with
    | nil =>
        rw [List.append_nil] at spelling ⊢
        exact ⟨[], spelled_eq_some_iff.mpr ⟨(List.append_nil left).symm, spelling⟩, whole.symm⟩
    | cons d middle =>
        obtain ⟨rfl, -⟩ := List.cons.inj whole
        obtain ⟨letter, listed, same⟩ := spelling.exists_letter
          (List.mem_append_right left List.mem_cons_self)
        rw [outside letter listed] at same
        cases same
  · exact ⟨others, spelled_eq_some_iff.mpr ⟨rfl, spelling⟩, rfl⟩

/-- The row limit is what follows its keyword on the last line, if no word before that
line is the keyword. -/
theorem finalLimit_append {body literal : Text}
    (none : keywordsIn [limitKeyword] body = []) (nonempty : literal ≠ [])
    (solid : ∀ c ∈ literal, Text.isBlank c = false) :
    finalLimit? (body ++ "\nLIMIT " ++ literal) = some literal := by
  have blanks : blanks? (' ' :: literal) = some ([' '], literal) := by
    cases literal with
    | nil => exact absurd rfl nonempty
    | cons c rest =>
        have first : Text.isBlank c = false := solid c (by simp)
        have blank : Text.isBlank ' ' = true := by decide
        simp [blanks?, first, blank]
  have spelled : spelled? limitKeyword ("LIMIT ".toList ++ literal) =
      some ("LIMIT".toList, ' ' :: literal) := rfl
  have starts : startsWord (some '\n') = true := by decide
  have inhabited : literal.isEmpty = false := by simpa using nonempty
  have unbroken : literal.any Text.isBlank = false :=
    List.any_eq_false.mpr fun c member => by simp [solid c member]
  rw [List.append_assoc, finalLimit?, find?, firstAt_append]
  · have lineBreak : spelled? limitKeyword ('\n' :: ("LIMIT ".toList ++ literal)) = .none := rfl
    change firstAt _ _ ('\n' :: 'L' :: ("IMIT ".toList ++ literal)) = _
    change spelled? limitKeyword ('L' :: ("IMIT ".toList ++ literal)) = _ at spelled
    change spelled? limitKeyword ('\n' :: 'L' :: ("IMIT ".toList ++ literal)) = _ at lineBreak
    rw [firstAt, firstAt, lineBreak, spelled]
    simp only [starts]
    simp [blanks, inhabited, unbroken, -List.isEmpty_iff, -List.any_eq_true]
  · intro before after parted _
    obtain ⟨line, broken⟩ : ∃ line, "\nLIMIT ".toList ++ literal = '\n' :: line := ⟨_, rfl⟩
    rw [broken]
    by_cases starts : startsWord before.getLast? = true
    · cases success : spelled? limitKeyword (after ++ '\n' :: line) with
      | none => simp
      | some parts =>
          obtain ⟨word, rest⟩ := parts
          obtain ⟨others, alone, rfl⟩ :=
            spelled_append_cons (Text.forall_not_of_all (by decide)) line success
          have inside : endsWord others = false :=
            not_spelled none (by simp) (by decide) (List.all_eq_true.mp (by decide)) parted starts
              alone
          have worded : endsWord (others ++ '\n' :: line) = false := by
            cases others with
            | nil => simp [endsWord] at inside
            | cons c others => simpa [endsWord] using inside
          cases blank : blanks? (others ++ '\n' :: line) with
          | none => simp [blank]
          | some parts =>
              have ends := endsWord_of_blank (blanks_eq_some blank)
              rw [worded] at ends
              exact absurd ends Bool.false_ne_true
    · simp [starts]

end Inquiry.Safety
