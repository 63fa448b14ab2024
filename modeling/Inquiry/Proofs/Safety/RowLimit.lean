import Inquiry.Proofs.Decimal.Overlong
import Inquiry.Proofs.Safety.Phrases
import Inquiry.Proofs.Statement.Nesting
import Inquiry.Proofs.Vocabulary.WellFormed

/-!
# Row limits that pass

The gate looks for the keyword of row limits anywhere in a statement, but the number that it
judges is the last word of the statement.

So it vouches for the last occurrence of the keyword alone: that one has a number behind it
which is small enough, and the number ends the statement.  Nothing is known of the occurrences
before it.
-/

namespace Inquiry

namespace Safety

/-! ## Occurrences of the keyword -/

/-- A place where a text holds the keyword of row limits as a word of its own. -/
structure LimitWord (text : Text) where
  before : Text
  word : Text
  after : Text
  whole : text = before ++ (word ++ after)
  starts : startsWord before.getLast? = true
  spelling : Spelling limitKeyword word
  ends : endsWord after = true

/-- Blanks and a number in plain digits, and what follows them. -/
structure NumberBehind (gap digits rest : Text) (number : Nat) (after : Text) : Prop where
  whole : after = gap ++ (digits ++ rest)
  parted : gap ≠ []
  blank : ∀ c ∈ gap, Text.isBlank c = true
  plain : Decimal.isPlain digits = true
  value : Decimal.readNat digits = .ok number

namespace LimitWord

variable {text : Text}

/-- The keyword stands outside literals. -/
def IsUnquoted (limit : LimitWord text) : Prop :=
  (Nesting.after {} limit.before).quoted = false

/-- The keyword does not occur again. -/
def IsLast (limit : LimitWord text) : Prop :=
  ∀ other : LimitWord text, other.before.length ≤ limit.before.length

/-- A number up to the bound follows, and a blank, a closing parenthesis or the end of the text
ends it. -/
def IsBounded (limit : LimitWord text) (maximum : Nat) : Prop :=
  ∃ gap digits rest number, NumberBehind gap digits rest number limit.after ∧
    number ≤ maximum ∧ rest.head?.all (fun c => Text.isBlank c || c == ')') = true

/-- A number up to the bound follows, and nothing else. -/
def IsFinal (limit : LimitWord text) (maximum : Nat) : Prop :=
  ∃ gap digits number, NumberBehind gap digits [] number limit.after ∧ number ≤ maximum

theorem length_word (limit : LimitWord text) : limit.word.length = limitKeyword.length :=
  limit.spelling.length_eq.symm

/-- The letters of the keyword are neither blanks nor digits. -/
theorem letters (limit : LimitWord text) {c : Char} (member : c ∈ limit.word) :
    Text.isWord c = true ∧ c.isDigit = false := by
  have capitals : ∀ letter ∈ limitKeyword, letter.isUpper = true :=
    List.all_eq_true.mp (by decide)
  obtain ⟨letter, listed, same⟩ := limit.spelling.exists_letter member
  exact ⟨isWord_of_isCaseOf (capitals letter listed) same,
    isDigit_of_isCaseOf (capitals letter listed) same⟩

theorem solid (limit : LimitWord text) : ∀ c ∈ limit.word, Text.isBlank c = false := by
  intro c member
  by_contra blank
  have letter := (limit.letters member).1
  rw [isWord_of_isBlank (Bool.not_eq_false _ ▸ blank)] at letter
  cases letter

theorem word_ne_nil (limit : LimitWord text) : limit.word ≠ [] := by
  apply List.ne_nil_of_length_pos
  rw [limit.length_word]
  decide

theorem spelled (limit : LimitWord text) :
    spelled? limitKeyword (limit.word ++ limit.after) = some (limit.word, limit.after) :=
  spelled_eq_some_iff.mpr ⟨rfl, limit.spelling⟩

theorem exists_isLast (limit : LimitWord text) : ∃ last : LimitWord text, last.IsLast := by
  classical
  let occurs (position : Nat) : Prop := ∃ other : LimitWord text, other.before.length = position
  have within (other : LimitWord text) : other.before.length ≤ text.length := by
    have total := congrArg List.length other.whole
    rw [List.length_append] at total
    omega
  obtain ⟨last, furthest⟩ : occurs (Nat.findGreatest occurs text.length) :=
    Nat.findGreatest_spec (within limit) ⟨limit, rfl⟩
  refine ⟨last, fun other => ?_⟩
  rw [furthest]
  exact Nat.le_findGreatest (within other) ⟨other, rfl⟩

/-- A character of the keyword is none of a number, nor of the blanks around it. -/
theorem not_mem_of_numbered (limit : LimitWord text) {c : Char} (member : c ∈ limit.word)
    {gap digits rest after : Text} {number : Nat}
    (behind : NumberBehind gap digits rest number after)
    (blank : ∀ c ∈ rest, Text.isBlank c = true) : c ∉ after := by
  have undigit := (limit.letters member).2
  have solid := limit.solid c member
  have plain := Decimal.isPlain_iff.mp behind.plain
  rw [behind.whole, List.mem_append, List.mem_append]
  rintro (between | digit | trailing)
  · exact absurd (behind.blank c between) (by simp [solid])
  · exact absurd (plain.2 c digit) (by simp [Text.isAsciiDigit, undigit])
  · exact absurd (blank c trailing) (by simp [solid])

/-- Where nothing but blanks follows a number behind the keyword, the keyword does not occur
again. -/
theorem isLast_of_numbered {numbered : LimitWord text} {gap digits rest : Text} {number : Nat}
    (behind : NumberBehind gap digits rest number numbered.after)
    (blank : ∀ c ∈ rest, Text.isBlank c = true) : numbered.IsLast := by
  intro limit
  obtain ⟨first, others, opens⟩ := List.exists_cons_of_ne_nil limit.word_ne_nil
  have outside := limit.not_mem_of_numbered (c := first) (by simp [opens]) behind blank
  -- A later occurrence would begin behind the word, where no letter stands, or inside it, where
  -- a letter stands before it.
  rcases List.append_eq_append_iff.mp (numbered.whole.symm.trans limit.whole) with
    ⟨middle, moved, parted⟩ | ⟨middle, moved, -⟩
  · rcases List.append_eq_append_iff.mp parted with ⟨more, -, inside⟩ | ⟨more, inside, -⟩
    · rw [inside, opens] at outside
      exact absurd (by simp) outside
    · rcases List.eq_nil_or_concat' middle with rfl | ⟨front, c, rfl⟩
      · rw [moved, List.append_nil]
      · have letter := (numbered.letters (c := c) (by simp [inside])).1
        have starts := limit.starts
        rw [moved, ← List.append_assoc, List.getLast?_concat] at starts
        simp [startsWord, letter] at starts
  · rw [moved, List.length_append]
    exact Nat.le_add_right _ _

theorem IsLast.after_eq {limit other : LimitWord text} (last : limit.IsLast)
    (otherLast : other.IsLast) : limit.after = other.after := by
  have place := Nat.le_antisymm (otherLast limit) (last other)
  have parted := List.append_inj_right (limit.whole.symm.trans other.whole) place
  exact List.append_inj_right parted (limit.length_word.trans other.length_word.symm)

/-- A bounded number is what stands in plain digits behind the blanks. -/
theorem IsBounded.exists_number {limit : LimitWord text} {maximum : Nat}
    (bounded : limit.IsBounded maximum) : ∃ number ≤ maximum, Decimal.readNat
      ((limit.after.dropWhile Text.isBlank).takeWhile Text.isAsciiDigit) = .ok number := by
  obtain ⟨gap, digits, rest, number, behind, small, ends⟩ := bounded
  have plain := Decimal.isPlain_iff.mp behind.plain
  obtain ⟨c, others, rfl⟩ := List.exists_cons_of_ne_nil plain.1
  have undigit : rest.head?.any Text.isAsciiDigit = false := by
    cases rest with
    | nil => rfl
    | cons d rest =>
        rw [List.head?_cons, Option.all_some, Bool.or_eq_true, beq_iff_eq] at ends
        rw [List.head?_cons, Option.any_some]
        rcases ends with blank | rfl
        · by_contra digit
          rw [isBlank_of_isDigit (Bool.not_eq_false _ ▸ digit)] at blank
          cases blank
        · decide
  have solid : ((c :: others) ++ rest).head?.any Text.isBlank = false := by
    simpa using isBlank_of_isDigit (plain.2 c List.mem_cons_self)
  refine ⟨number, small, ?_⟩
  rw [behind.whole, (Text.span_append behind.blank solid).2,
    (Text.span_append plain.2 undigit).1, behind.value]

end LimitWord

/-! ## The check -/

variable {text : Text}

theorem hasLimit_iff : hasLimit text = true ↔ Nonempty (LimitWord text) := by
  constructor
  · intro found
    obtain ⟨⟨⟩, success⟩ := Option.isSome_iff_exists.mp found
    obtain ⟨before, behind, rfl, probed⟩ := exists_of_find success
    split at probed
    · cases probed
    next starts =>
      obtain ⟨⟨word, after⟩, spelled, probed⟩ := Option.bind_eq_some_iff.mp probed
      dsimp only at probed
      split at probed
      next ends =>
        obtain ⟨rfl, spelling⟩ := spelled_eq_some_iff.mp spelled
        exact ⟨⟨before, word, after, rfl, by simpa using starts, spelling, ends⟩⟩
      next => cases probed
  · rintro ⟨limit⟩
    obtain ⟨before, word, after, rfl, starts, spelling, ends⟩ := limit
    apply isSome_find
    have spelled : spelled? limitKeyword (word ++ after) = some (word, after) :=
      spelled_eq_some_iff.mpr ⟨rfl, spelling⟩
    simp [starts, spelled, ends]

/-- A text ends with one word. -/
theorem lastWord_unique {front other first last : Text} {gap blank : Char}
    (whole : front ++ gap :: first = other ++ blank :: last) (between : Text.isBlank gap = true)
    (apart : Text.isBlank blank = true) (solid : ∀ c ∈ first, Text.isBlank c = false)
    (solidLast : ∀ c ∈ last, Text.isBlank c = false) : first = last := by
  have taken : ∀ {before word : Text} {c : Char}, Text.isBlank c = true →
      (∀ c ∈ word, Text.isBlank c = false) →
      (before ++ c :: word).reverse.takeWhile (fun c => !Text.isBlank c) = word.reverse := by
    intro before word c blank solid
    have all : ∀ c ∈ word.reverse, (!Text.isBlank c) = true := by
      intro c member
      simp [solid c (List.mem_reverse.mp member)]
    rw [List.reverse_append, List.reverse_cons, List.append_assoc]
    exact (Text.span_append all (by simp [blank])).1
  have same := @taken front first gap between solid
  rw [whole, taken apart solidLast] at same
  exact List.reverse_injective same.symm

/-- The row limit that is judged has the keyword before it. -/
theorem exists_of_finalLimit {literal : Text} (success : finalLimit? text = some literal) :
    ∃ (limit : LimitWord text) (gap : Text), limit.after = gap ++ literal ∧ gap ≠ [] ∧
      (∀ c ∈ gap, Text.isBlank c = true) ∧ literal ≠ [] ∧
        ∀ c ∈ literal, Text.isBlank c = false := by
  obtain ⟨before, behind, rfl, probed⟩ := exists_of_find success
  split at probed
  · cases probed
  next starts =>
    obtain ⟨⟨word, after⟩, spelled, probed⟩ := Option.bind_eq_some_iff.mp probed
    obtain ⟨⟨gap, last⟩, blank, probed⟩ := Option.bind_eq_some_iff.mp probed
    dsimp only at blank probed
    split at probed
    · cases probed
    next solid =>
      cases probed
      obtain ⟨rfl, spelling⟩ := spelled_eq_some_iff.mp spelled
      have ends := endsWord_of_blank (blanks_eq_some blank)
      obtain ⟨rfl, parted, blanks⟩ := blanks_parted blank
      simp only [Bool.or_eq_true, List.isEmpty_iff, List.any_eq_true, not_or, not_exists,
        not_and, Bool.not_eq_true] at solid
      exact ⟨⟨before, word, gap ++ literal, rfl, by simpa using starts, spelling, ends⟩, gap,
        rfl, parted, blanks, solid.1, solid.2⟩

/-- The row limit that is judged is the last word of the text. -/
theorem finalLimit_eq {literal front last : Text} {gap : Char}
    (success : finalLimit? text = some literal) (ends : text = front ++ gap :: last)
    (blank : Text.isBlank gap = true) (solid : ∀ c ∈ last, Text.isBlank c = false) :
    literal = last := by
  obtain ⟨limit, between, behind, parted, spaced, -, word⟩ := exists_of_finalLimit success
  obtain ⟨others, final, rfl⟩ := (List.eq_nil_or_concat' between).resolve_left parted
  have whole : (limit.before ++ (limit.word ++ others)) ++ final :: literal =
      front ++ gap :: last := by
    have spelled := limit.whole.symm.trans ends
    rw [behind] at spelled
    simpa using spelled
  exact lastWord_unique whole (spaced final (by simp)) blank word solid

/-- A word behind the keyword is judged if it ends the text. -/
theorem finalLimit_of_limitWord (limit : LimitWord text) {gap literal : Text}
    (behind : limit.after = gap ++ literal) (parted : gap ≠ [])
    (blank : ∀ c ∈ gap, Text.isBlank c = true) (nonempty : literal ≠ [])
    (solid : ∀ c ∈ literal, Text.isBlank c = false) : finalLimit? text = some literal := by
  have found : (finalLimit? text).isSome = true := by
    have begins : literal.head?.any Text.isBlank = false := by
      cases literal with
      | nil => rfl
      | cons c others => simpa using solid c List.mem_cons_self
    have unbroken : literal.any Text.isBlank = false :=
      List.any_eq_false.mpr fun c member => by simp [solid c member]
    have spelled := limit.spelled
    have starts := limit.starts
    rw [behind] at spelled
    conv => lhs; rw [limit.whole, behind]
    apply isSome_find
    simp only [starts, spelled, blanks_append parted blank begins, unbroken, Bool.not_true,
      Bool.false_eq_true, if_false, Option.bind_eq_bind, Option.bind_some, Bool.or_false,
      List.isEmpty_iff, nonempty, Option.isSome_some]
  obtain ⟨other, success⟩ := Option.isSome_iff_exists.mp found
  obtain ⟨front, last, rfl⟩ := (List.eq_nil_or_concat' gap).resolve_left parted
  have ends : text = (limit.before ++ (limit.word ++ front)) ++ last :: literal := by
    simpa [behind] using limit.whole
  rw [success, finalLimit_eq success ends (blank last (by simp)) solid]

/-- The gate finds nothing wrong with the row limits of a text exactly if the last of them is a
small number that ends the text. -/
theorem limitViolations_eq_nil_iff {maximum : Nat} : limitViolations maximum text = .ok [] ↔
    ∀ limit : LimitWord text, limit.IsLast → limit.IsFinal maximum := by
  constructor
  · intro judged limit last
    have found := hasLimit_iff.mpr ⟨limit⟩
    simp only [limitViolations, found, Bool.not_true, Bool.false_eq_true, if_false] at judged
    split at judged
    · cases judged
    next plain =>
      split at judged
      · cases judged
      next number read =>
        have small : number ≤ maximum := by
          by_contra large
          simp [Nat.lt_of_not_le large] at judged
        cases success : finalLimit? text with
        | none => simp [success, Decimal.isPlain] at plain
        | some literal =>
            simp only [success, Option.getD_some] at plain read
            obtain ⟨numbered, gap, follows, parted, blank, -⟩ := exists_of_finalLimit success
            have behind : NumberBehind gap literal [] number numbered.after :=
              ⟨by rw [follows, List.append_nil], parted, blank, by simpa using plain, read⟩
            rw [LimitWord.IsFinal,
              last.after_eq (LimitWord.isLast_of_numbered behind (by simp))]
            exact ⟨gap, literal, number, behind, small⟩
  · intro finals
    by_cases found : hasLimit text = true
    · obtain ⟨limit⟩ := hasLimit_iff.mp found
      obtain ⟨last, isLast⟩ := limit.exists_isLast
      obtain ⟨gap, digits, number, behind, small⟩ := finals last isLast
      have plain := Decimal.isPlain_iff.mp behind.plain
      have success : finalLimit? text = some digits :=
        finalLimit_of_limitWord last (by simpa using behind.whole) behind.parted behind.blank
          plain.1 fun c member => isBlank_of_isDigit (plain.2 c member)
      simp [limitViolations, found, success, behind.plain, behind.value, small]
    · simp [limitViolations, found]

/-! ## The outcome of the check -/

theorem hasLimit_of_finalLimit {literal : Text} (found : finalLimit? text = some literal) :
    hasLimit text = true := by
  obtain ⟨limit, -⟩ := exists_of_finalLimit found
  exact hasLimit_iff.mpr ⟨limit⟩

/-- The row limit is judged unless it is too long to be read. -/
theorem hinges_limitViolations (maximum : Nat) (text : Text) :
    Outcome.Hinges Fault.IsOverlong (fun _ => False)
      (¬∃ literal, finalLimit? text = some literal ∧ Decimal.IsOverlong literal)
      (limitViolations maximum text) := by
  cases found : finalLimit? text with
  | none =>
      have judged : limitViolations maximum text =
          .ok (if hasLimit text then [.limitNotLiteral []] else []) := by
        simp only [limitViolations, found]
        cases hasLimit text <;> rfl
      rw [judged]
      exact .ok (by simp) _
  | some literal =>
      simp only [limitViolations, hasLimit_of_finalLimit found, found, Option.getD_some,
        Bool.not_true, Bool.false_eq_true, if_false, Option.some.injEq, exists_eq_left']
      by_cases overlong : Decimal.IsOverlong literal
      · rw [overlong.1, Decimal.readNat_of_isOverlong overlong]
        exact .error_of_not overlong.2 (not_not.mpr overlong)
      · cases plain : Decimal.isPlain literal with
        | false => exact .ok overlong _
        | true =>
            obtain ⟨number, read⟩ := Decimal.exists_readNat plain overlong
            rw [read]
            exact .ok overlong _

/-- The row limit is judged if the last word of the text is not too long to be read. -/
theorem exists_limitViolations {front last : Text} {gap : Char}
    (ends : text = front ++ gap :: last) (blank : Text.isBlank gap = true)
    (solid : ∀ c ∈ last, Text.isBlank c = false) (short : last.length ≤ Decimal.digitLimit)
    (maximum : Nat) : ∃ violations, limitViolations maximum text = .ok violations := by
  apply (hinges_limitViolations maximum text).exists_iff.mpr
  rintro ⟨literal, found, overlong⟩
  obtain rfl := finalLimit_eq found ends blank solid
  exact Decimal.not_isOverlong_of_short short overlong

/-! ## Blanks around the text -/

theorem startsWord_of_blanks {leading : Text} (blank : ∀ c ∈ leading, Text.isBlank c = true)
    (before : Text) : startsWord (leading ++ before).getLast? = startsWord before.getLast? := by
  rcases List.eq_nil_or_concat' before with rfl | ⟨front, c, rfl⟩
  · rcases List.eq_nil_or_concat' leading with rfl | ⟨others, d, rfl⟩
    · rfl
    · simp [startsWord, isWord_of_isBlank (blank d (by simp))]
  · rw [← List.append_assoc, List.getLast?_concat, List.getLast?_concat]

theorem endsWord_of_blanks {trailing : Text} (blank : ∀ c ∈ trailing, Text.isBlank c = true)
    (after : Text) : endsWord (after ++ trailing) = endsWord after := by
  cases after with
  | nil =>
      cases trailing with
      | nil => rfl
      | cons c others => simp [endsWord, isWord_of_isBlank (blank c List.mem_cons_self)]
  | cons c after => rfl

namespace LimitWord

variable {leading trailing : Text}

/-- The keyword between blanks around the text. -/
def within (limit : LimitWord text) (blanksBefore : ∀ c ∈ leading, Text.isBlank c = true)
    (blanksAfter : ∀ c ∈ trailing, Text.isBlank c = true) :
    LimitWord (leading ++ (text ++ trailing)) where
  before := leading ++ limit.before
  word := limit.word
  after := limit.after ++ trailing
  whole := by
    conv => lhs; rw [limit.whole]
    simp only [List.append_assoc]
  starts := (startsWord_of_blanks blanksBefore _).trans limit.starts
  spelling := limit.spelling
  ends := (endsWord_of_blanks blanksAfter _).trans limit.ends

/-- Blanks around a text hold no keyword. -/
theorem exists_within (limit : LimitWord (leading ++ (text ++ trailing)))
    (blanksBefore : ∀ c ∈ leading, Text.isBlank c = true)
    (blanksAfter : ∀ c ∈ trailing, Text.isBlank c = true) :
    ∃ inner : LimitWord text, limit.before = leading ++ inner.before ∧
      limit.after = inner.after ++ trailing := by
  obtain ⟨front, back, whole, moved, movedBack⟩ := Text.exists_parted_between limit.whole
    blanksBefore blanksAfter limit.word_ne_nil (Text.head?_of_outside limit.solid)
    (Text.getLast?_of_outside limit.solid)
  refine ⟨⟨front, limit.word, back, whole, ?_, limit.spelling, ?_⟩, moved, movedBack⟩
  · rw [← startsWord_of_blanks blanksBefore, ← moved]
    exact limit.starts
  · rw [← endsWord_of_blanks blanksAfter, ← movedBack]
    exact limit.ends

end LimitWord

/-! ## What passes -/

/-- In a statement that passes the gate, the last occurrence of the keyword of row limits has a
number behind it that is not above the maximum of the vocabulary. -/
theorem bounded_of_last {vocabulary : Vocabulary} {style : Option ParamStyle} {sql : Text}
    {parameters : List Value} (passed : check vocabulary style sql parameters = .ok [])
    (limit : LimitWord sql) (last : limit.IsLast) :
    limit.IsBounded vocabulary.limits.maximum := by
  obtain ⟨leading, trailing, parted, blanksBefore, blanksAfter⟩ := Text.exists_eq_strip sql
  rw [List.append_assoc] at parted
  have finals := limitViolations_eq_nil_iff.mp (passed_of_check passed).limits
  generalize Text.strip sql = text at parted finals
  subst parted
  obtain ⟨inner, moved, movedBack⟩ := limit.exists_within blanksBefore blanksAfter
  have innerLast : inner.IsLast := by
    intro other
    have earlier := last (other.within blanksBefore blanksAfter)
    simpa [LimitWord.within, moved] using earlier
  obtain ⟨gap, digits, number, behind, small⟩ := finals inner innerLast
  refine ⟨gap, digits, trailing, number, { behind with whole := ?_ }, small, ?_⟩
  · rw [movedBack, behind.whole, List.append_nil, List.append_assoc]
  · cases trailing with
    | nil => rfl
    | cons c others => simp [blanksAfter c List.mem_cons_self]

/-- The row limit of a statement that has one. -/
def sampleLimit : LimitWord "SELECT s.title\nFROM sites AS s\nLIMIT 1000" where
  before := "SELECT s.title\nFROM sites AS s\n"
  word := "LIMIT"
  after := " 1000"
  whole := by decide
  starts := by decide
  spelling := by decide
  ends := by decide

theorem bounded_sampleLimit :
    check Vocabulary.sampleVocabulary (some .dollar)
        "SELECT s.title\nFROM sites AS s\nLIMIT 1000" [] = .ok [] ∧
      sampleLimit.IsLast ∧ sampleLimit.IsBounded 1000 := by
  have passed : check Vocabulary.sampleVocabulary (some .dollar)
      "SELECT s.title\nFROM sites AS s\nLIMIT 1000" [] = .ok [] := by
    with_unfolding_all rfl
  have behind : NumberBehind " " "1000" [] 1000 sampleLimit.after :=
    ⟨by decide, by decide, List.all_eq_true.mp (by decide), by decide, by decide⟩
  have last : sampleLimit.IsLast := LimitWord.isLast_of_numbered behind (by simp)
  exact ⟨passed, last, bounded_of_last passed sampleLimit last⟩

/-- The row limit of a selection in parentheses, in front of the last one. -/
def innerLimit :
    LimitWord "SELECT s.title\nFROM (SELECT title FROM sites LIMIT 5000) AS s\nLIMIT 10" where
  before := "SELECT s.title\nFROM (SELECT title FROM sites "
  word := "LIMIT"
  after := " 5000) AS s\nLIMIT 10"
  whole := by decide
  starts := by decide
  spelling := by decide
  ends := by decide

set_option maxRecDepth 20000 in
/-- A statement passes although more rows are asked for in it than the maximum. -/
theorem innerLimit_passes :
    Vocabulary.read Vocabulary.sampleSource = .ok Vocabulary.sampleVocabulary ∧
      check Vocabulary.sampleVocabulary (some .dollar)
        "SELECT s.title\nFROM (SELECT title FROM sites LIMIT 5000) AS s\nLIMIT 10" [] = .ok [] ∧
      innerLimit.IsUnquoted ∧
      ¬innerLimit.IsBounded Vocabulary.sampleVocabulary.limits.maximum := by
  refine ⟨Vocabulary.read_sampleSource, ?_, ?_, ?_⟩
  · with_unfolding_all rfl
  · rw [LimitWord.IsUnquoted]
    decide
  · intro bounded
    obtain ⟨number, small, read⟩ := bounded.exists_number
    have value : Decimal.readNat
        ((innerLimit.after.dropWhile Text.isBlank).takeWhile Text.isAsciiDigit) = .ok 5000 := by
      decide
    rw [value] at read
    cases read
    exact absurd small (by decide)

end Safety

end Inquiry
