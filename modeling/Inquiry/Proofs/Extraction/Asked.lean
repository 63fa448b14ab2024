import Inquiry.Proofs.Extraction.Limit
import Inquiry.Proofs.Extraction.Mention

/-!
# Row limits that are asked for

The bundled patterns find the number that a question names: behind "top", else behind "first", else
before "top", "best" or "worst", each time the leftmost one with all its digits.  It is the limit
up to the maximum; a larger one asks for no limit.  Without a number the words of a ranking ask for
the default limit.

A question has no more digits in small letters than it has characters, so that a number in a
question of `Decimal.digitLimit` characters or less can be read.
-/

namespace Inquiry

namespace Extraction

open Text (Naming Named NumberBehind NumberBefore)

variable {vocabulary : Vocabulary}

/-! ## The bundled patterns -/

/-- The ways in which the bundled patterns look for a number, one after the other. -/
def bundledNamings : List Naming :=
  [NumberBehind "top", NumberBehind "first", NumberBefore ["top", "best", "worst"]]

theorem isInked_ranking : ∀ word ∈ (["top", "best", "worst"] : List Text), Text.IsInked word := by
  decide

theorem ignoresMargins_bundled : ∀ naming ∈ bundledNamings, Text.IgnoresMargins naming := by
  simp only [bundledNamings, List.forall_mem_cons, List.not_mem_nil, false_imp_iff, implies_true,
    and_true]
  exact ⟨Text.ignoresMargins_numberBehind (by decide),
    Text.ignoresMargins_numberBehind (by decide),
    Text.ignoresMargins_numberBefore isInked_ranking⟩

theorem finds_bundled :
    List.Forall₂ (fun (rule : LimitPattern) naming => Pattern.Finds rule.pattern naming)
      Vocabulary.bundled.limits.patterns bundledNamings :=
  .cons (Pattern.finds_wordBeforeNumber _) <|
    .cons (Pattern.finds_wordBeforeNumber _) <|
    .cons (Pattern.finds_numberBeforeWord (List.cons_ne_nil _ _) isInked_ranking) .nil

/-- Patterns that are tried in order capture the number that is named first. -/
theorem firstCapture_of_named {patterns : List LimitPattern} {namings : List Naming}
    (finds : List.Forall₂ (fun (rule : LimitPattern) naming => Pattern.Finds rule.pattern naming)
      patterns namings)
    {text : Text} {found : Option Text} (named : Named text namings found) :
    (patterns.findSome? fun rule => rule.pattern.search text).map firstCapture =
      found.map .text := by
  induction finds with
  | nil =>
      cases named
      rfl
  | cons here _ ih =>
      cases named with
      | here leftmost =>
          obtain ⟨spot, matched, captured⟩ := here.exists_search leftmost
          rw [List.findSome?_cons, matched, Option.map_some, firstCapture, captured]
          rfl
      | later absent behind =>
          rw [List.findSome?_cons, here.search_eq_none absent]
          exact ih behind

/-- The number that a question names is judged; without one the ranking decides. -/
theorem limit_of_named
    (bundled : vocabulary.limits.patterns = Vocabulary.bundled.limits.patterns) {question : Text}
    {found : Option Text} (named : Named (Text.lower question) bundledNamings found) :
    limit vocabulary question =
      found.elim
        (.ok (if mentions vocabulary.comparisonKeywords (Text.lower question) then
          vocabulary.limits.defaultRanked else 0))
        fun digits => boundedLimit digits vocabulary.limits.maximum := by
  have searched := firstCapture_of_named finds_bundled named
  rw [← bundled] at searched
  cases found with
  | some digits =>
      obtain ⟨spot, matched, captured⟩ := Option.map_eq_some_iff.mp searched
      simp only [limit, matched, captured]
      rfl
  | none =>
      have unmatched := Option.map_eq_none_iff.mp searched
      simp only [limit, unmatched]
      split <;> rfl

/-- Blanks around a question and the case of its letters make no difference to its limit. -/
theorem limit_strip_lower
    (bundled : vocabulary.limits.patterns = Vocabulary.bundled.limits.patterns)
    (stripped : ∀ keyword ∈ vocabulary.comparisonKeywords, Text.strip keyword = keyword)
    (question : Text) :
    limit vocabulary (Text.strip (Text.lower question)) = limit vocabulary question := by
  obtain ⟨leading, trailing, parted, blanksBefore, blanksAfter⟩ :=
    Text.exists_eq_strip (Text.lower question)
  obtain ⟨found, named⟩ := Text.exists_named (Text.strip (Text.lower question)) bundledNamings
  -- Blanks neither hide a number nor stand in for a part of one.
  have wider : Named (Text.lower question) bundledNamings found := by
    have widened := named.widen ignoresMargins_bundled blanksBefore blanksAfter
    rwa [← List.append_assoc, ← parted] at widened
  rw [limit_of_named bundled wider]
  rw [← Text.lower_strip_lower] at named
  rw [limit_of_named bundled named, Text.lower_strip_lower, mentions_strip stripped]

/-! ## The limit of a question -/

/-- The limit that a text asks for: the number that it names unless that is above the maximum, or
the default of rankings, or none. -/
inductive AskedLimit (text : Text) : Nat → Prop where
  | counted {digits : Text} :
      Named text bundledNamings (some digits) → Nat.ofDigitChars 10 digits 0 ≤ 1000 →
      AskedLimit text (Nat.ofDigitChars 10 digits 0)
  | dropped {digits : Text} :
      Named text bundledNamings (some digits) → 1000 < Nat.ofDigitChars 10 digits 0 →
      AskedLimit text 0
  | ranked {keyword : Text} :
      Named text bundledNamings none → keyword ∈ Vocabulary.bundled.comparisonKeywords →
      keyword <:+: text → AskedLimit text 10
  | unlimited :
      Named text bundledNamings none →
      (∀ keyword ∈ Vocabulary.bundled.comparisonKeywords, ¬keyword <:+: text) →
      AskedLimit text 0

theorem exists_askedLimit (text : Text) : ∃ number, AskedLimit text number := by
  obtain ⟨found, named⟩ := Text.exists_named text bundledNamings
  cases found with
  | some digits =>
      rcases Nat.lt_or_ge 1000 (Nat.ofDigitChars 10 digits 0) with large | small
      · exact ⟨_, .dropped named large⟩
      · exact ⟨_, .counted named small⟩
  | none =>
      by_cases ranks : ∃ keyword ∈ Vocabulary.bundled.comparisonKeywords, keyword <:+: text
      · obtain ⟨keyword, listed, within⟩ := ranks
        exact ⟨_, .ranked named listed within⟩
      · simp only [not_exists, not_and] at ranks
        exact ⟨_, .unlimited named ranks⟩

theorem digits_of_bundledNamings {naming : Naming} (listed : naming ∈ bundledNamings)
    {text before digits : Text} (named : naming text before digits) :
    Decimal.isPlain digits = true ∧ digits <:+: text := by
  simp only [bundledNamings, List.mem_cons, List.not_mem_nil, or_false] at listed
  rcases listed with rfl | rfl | rfl
  · exact named.digits
  · exact named.digits
  · exact named.digits

/-- A number in a short question is read. -/
theorem boundedLimit_of_named {question digits : Text}
    (short : question.length ≤ Decimal.digitLimit)
    (named : Named (Text.lower question) bundledNamings (some digits)) (maximum : Nat) :
    boundedLimit digits maximum =
      .ok (if maximum < Nat.ofDigitChars 10 digits 0 then 0
        else Nat.ofDigitChars 10 digits 0) := by
  obtain ⟨naming, listed, before, there⟩ := named.exists_naming
  obtain ⟨plain, within⟩ := digits_of_bundledNamings listed there
  obtain ⟨nonempty, all⟩ := Decimal.isPlain_iff.mp plain
  have readable := (Text.length_digits_le plain within).trans short
  have number : Decimal.spelled (digits.map fun c => c.toNat - 48) =
      Nat.ofDigitChars 10 digits 0 := by
    rw [Decimal.spelled, List.foldl_map]
    rfl
  rw [boundedLimit, plain, Decimal.readNat_of_digits nonempty all, if_pos readable, number]
  simp only [Bool.not_true, Bool.false_eq_true, if_false, Nat.cast_lt]

theorem limit_of_askedLimit {question : Text} (short : question.length ≤ Decimal.digitLimit)
    {number : Nat} (asked : AskedLimit (Text.lower question) number) :
    limit Vocabulary.bundled question = .ok number := by
  cases asked with
  | counted named small =>
      rw [limit_of_named rfl named]
      exact (boundedLimit_of_named short named 1000).trans
        (congrArg _ (if_neg (Nat.not_lt.mpr small)))
  | dropped named large =>
      rw [limit_of_named rfl named]
      exact (boundedLimit_of_named short named 1000).trans (congrArg _ (if_pos large))
  | ranked named listed within =>
      rw [limit_of_named rfl named]
      exact congrArg _ (if_pos (mentions_iff.mpr ⟨_, listed, within⟩))
  | unlimited named absent =>
      rw [limit_of_named rfl named]
      refine congrArg _ (if_neg fun mentioned => ?_)
      obtain ⟨keyword, listed, within⟩ := mentions_iff.mp mentioned
      exact absent keyword listed within

/-- A question that is not too long has exactly the limit that it asks for. -/
theorem limit_eq_ok_iff_askedLimit {question : Text}
    (short : question.length ≤ Decimal.digitLimit) :
    (∃ number, limit Vocabulary.bundled question = .ok number) ∧
      ∀ number, limit Vocabulary.bundled question = .ok number ↔
        AskedLimit (Text.lower question) number := by
  obtain ⟨number, asked⟩ := exists_askedLimit (Text.lower question)
  have found := limit_of_askedLimit short asked
  refine ⟨⟨number, found⟩, fun other => ⟨fun same => ?_, limit_of_askedLimit short⟩⟩
  rw [found] at same
  cases same
  exact asked

/-- A number behind the letters of "top" comes before the ones behind "first", wherever they stand,
and one that is too large asks for no limit. -/
theorem limit_eq_ok_iff_askedLimit_unstoppable :
    ("First 3, NON-STOP\t 0070 rows" : Text).length ≤ Decimal.digitLimit ∧
      AskedLimit (Text.lower "First 3, NON-STOP\t 0070 rows") 70 ∧
      AskedLimit (Text.lower "the 1001 best of the top") 0 ∧
      AskedLimit (Text.lower "top of the best") 10 := by
  have short : ("First 3, NON-STOP\t 0070 rows" : Text).length ≤ Decimal.digitLimit := by decide
  refine ⟨short, ?_, ?_, ?_⟩
  · exact ((limit_eq_ok_iff_askedLimit short).2 70).mp (by with_unfolding_all rfl)
  · exact ((limit_eq_ok_iff_askedLimit (by decide)).2 0).mp (by with_unfolding_all rfl)
  · exact ((limit_eq_ok_iff_askedLimit (by decide)).2 10).mp (by with_unfolding_all rfl)

end Extraction

end Inquiry
