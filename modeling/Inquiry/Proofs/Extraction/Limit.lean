import Inquiry.Extraction
import Inquiry.Proofs.Decimal.Overlong
import Inquiry.Proofs.Pattern.Matcher
import Inquiry.Proofs.Pattern.Number
import Inquiry.Proofs.Vocabulary.WellFormed

/-!
# Row limits that are read

A row limit is a number up to the maximum of the vocabulary.  What spells no such number is
dropped, and there is no limit then.

Digits that are too many to be read are the exception: they are not dropped, they stop the
extraction, although the number that they spell is above every maximum or has zeros in front.
-/

namespace Inquiry

namespace Extraction

variable {vocabulary : Vocabulary}

/-- The limit pattern that matches first captures more digits than are read. -/
def CapturesOverlong (vocabulary : Vocabulary) (question : Text) : Prop :=
  ∃ spot digits,
    vocabulary.limits.patterns.findSome? (fun rule => rule.pattern.search (Text.lower question)) =
      some spot ∧ spot.capture? 1 = some digits ∧ Decimal.IsOverlong digits

/-! ## Bounds -/

/-- A limit above the maximum is dropped. -/
theorem boundedLimit_le {text : Text} {maximum number : Nat}
    (found : boundedLimit text maximum = .ok number) : number ≤ maximum := by
  simp only [boundedLimit] at found
  split at found
  · cases found
    exact Nat.zero_le _
  · split at found
    · cases found
    · cases found
      split <;> omega

/-- A limit is zero unless a text spells it. -/
theorem exists_of_validLimit {given : Value} {maximum : Int} {number : Nat}
    (found : validLimit given maximum = .ok number) :
    number = 0 ∨ ∃ text, boundedLimit text maximum = .ok number := by
  simp only [validLimit] at found
  split at found
  · split at found
    next text _ => exact .inr ⟨text, found⟩
    next => cases found
  · split at found
    next text _ => exact .inr ⟨text, found⟩
    next => cases found
  · cases found
    exact .inl rfl

theorem validLimit_le {given : Value} {maximum number : Nat}
    (found : validLimit given maximum = .ok number) : number ≤ maximum := by
  rcases exists_of_validLimit found with rfl | ⟨text, spelled⟩
  · exact Nat.zero_le _
  · exact boundedLimit_le spelled

/-- A limit is a number that was read. -/
theorem boundedLimit_lt {text : Text} {maximum : Int} {number : Nat}
    (found : boundedLimit text maximum = .ok number) : number < 10 ^ Decimal.digitLimit := by
  have positive : 0 < 10 ^ Decimal.digitLimit := Nat.pow_pos (by decide)
  simp only [boundedLimit] at found
  split at found
  · cases found
    exact positive
  next plain =>
    split at found
    · cases found
    next read =>
      cases found
      split
      · exact positive
      · exact Decimal.readNat_lt (by simpa using plain) read

theorem validLimit_lt {given : Value} {maximum : Int} {number : Nat}
    (found : validLimit given maximum = .ok number) : number < 10 ^ Decimal.digitLimit := by
  rcases exists_of_validLimit found with rfl | ⟨text, spelled⟩
  · exact Nat.pow_pos (by decide)
  · exact boundedLimit_lt spelled

/-- The row limit of a question is the default one or one that was judged. -/
theorem exists_of_limit {question : Text} {number : Nat}
    (found : limit vocabulary question = .ok number) :
    number = vocabulary.limits.defaultRanked ∨
      ∃ given, validLimit given vocabulary.limits.maximum = .ok number := by
  simp only [limit] at found
  split at found
  next spot _ => exact .inr ⟨firstCapture spot, found⟩
  next =>
    split at found
    · cases found
      exact .inl rfl
    · exact .inr ⟨.null, found⟩

/-- A row limit is bounded, unless it is the default one. -/
theorem limit_drawn {question : Text} {number : Nat}
    (found : limit vocabulary question = .ok number) :
    number ≤ vocabulary.limits.maximum ∨ number = vocabulary.limits.defaultRanked := by
  rcases exists_of_limit found with ranked | ⟨given, judged⟩
  · exact .inr ranked
  · exact .inl (validLimit_le judged)

/-- A limit is a number that was read, unless it is the default one. -/
theorem limit_lt {question : Text} {number : Nat}
    (found : limit vocabulary question = .ok number) :
    number < 10 ^ Decimal.digitLimit ∨ number = vocabulary.limits.defaultRanked := by
  rcases exists_of_limit found with ranked | ⟨given, judged⟩
  · exact .inr ranked
  · exact .inl (validLimit_lt judged)

/-! ## Outcomes -/

theorem boundedLimit_of_isOverlong {text : Text} (overlong : Decimal.IsOverlong text)
    (maximum : Int) : boundedLimit text maximum = .error (.integerTooLong text.length) := by
  rw [boundedLimit, overlong.1, Decimal.readNat_of_isOverlong overlong]
  rfl

theorem hinges_boundedLimit (text : Text) (maximum : Int) :
    Outcome.Hinges Fault.IsOverlong (fun _ => False) (¬Decimal.IsOverlong text)
      (boundedLimit text maximum) := by
  by_cases overlong : Decimal.IsOverlong text
  · rw [boundedLimit_of_isOverlong overlong]
    exact .error_of_not overlong.2 (not_not.mpr overlong)
  · rw [boundedLimit]
    cases plain : Decimal.isPlain text with
    | false => exact .ok overlong 0
    | true =>
        obtain ⟨number, read⟩ := Decimal.exists_readNat plain overlong
        rw [read]
        exact .ok overlong _

/-- A given row limit is judged unless it is too long. -/
theorem hinges_validLimit (given : Value) (maximum : Int) :
    Outcome.Hinges Fault.IsOverlong (fun _ => False) (¬given.IsOverlong)
      (validLimit given maximum) := by
  cases given with
  | int number =>
      rw [validLimit]
      cases written : (Value.int number).written? with
      | some text =>
          refine (hinges_boundedLimit text maximum).congr
            (iff_of_true (Value.not_isOverlong_of_written_int written) ?_)
          rw [Value.isOverlong_int_iff, written]
          exact Option.some_ne_none text
      | none => exact .error_of_not trivial (not_not.mpr (Value.isOverlong_int_iff.mpr written))
  | text content => exact hinges_boundedLimit content maximum
  | _ => exact .ok not_false 0

/-- The row limit of a question is found unless too many digits are captured. -/
theorem hinges_limit (vocabulary : Vocabulary) (question : Text) :
    Outcome.Hinges Fault.IsOverlong (fun _ => False) (¬CapturesOverlong vocabulary question)
      (limit vocabulary question) := by
  simp only [limit, CapturesOverlong]
  cases found : vocabulary.limits.patterns.findSome?
      (fun rule => rule.pattern.search (Text.lower question)) with
  | some spot =>
      refine (hinges_validLimit (firstCapture spot) _).congr (not_congr ?_)
      rw [firstCapture]
      cases captured : spot.capture? 1 with
      | some digits => simp [Value.IsOverlong, captured]
      | none => simp [Value.IsOverlong, captured]
  | none =>
      simp only [reduceCtorEq, false_and, exists_false, not_false_eq_true]
      split
      · exact .ok trivial _
      · exact .ok trivial _

/-- Only a question that is as long as a number that is too long captures one. -/
theorem not_capturesOverlong_of_short {question : Text}
    (short : (Text.lower question).length ≤ Decimal.digitLimit) :
    ¬CapturesOverlong vocabulary question := by
  rintro ⟨spot, digits, found, captured, overlong⟩
  obtain ⟨rule, -, matched⟩ := List.exists_of_findSome?_eq_some found
  exact Decimal.not_isOverlong_of_short
    ((Pattern.length_capture_le matched captured).trans short) overlong

/-- A row limit is found in every question that is not as long as a number that is too long
to be read. -/
theorem exists_limit {question : Text}
    (short : (Text.lower question).length ≤ Decimal.digitLimit) :
    ∃ number, limit vocabulary question = .ok number :=
  (hinges_limit vocabulary question).exists_iff.mpr (not_capturesOverlong_of_short short)

/-- A row limit is a number up to the maximum, and whatever is none is dropped, with one exception:
more digits than are read stop the reading. -/
theorem exists_limit_le_iff {raw : Value} {vocabulary : Vocabulary}
    (accepted : Vocabulary.read raw = .ok vocabulary) :
    (∀ question, (∃ number ≤ vocabulary.limits.maximum,
        limit vocabulary question = .ok number) ↔ ¬CapturesOverlong vocabulary question) ∧
      (∀ (given : Value) (maximum : Nat), (∃ number ≤ maximum,
        validLimit given maximum = .ok number) ↔ ¬given.IsOverlong) ∧
      (∀ question fault, limit vocabulary question = .error fault → fault.IsOverlong) ∧
      ∀ (given : Value) (maximum : Nat) fault,
        validLimit given maximum = .error fault → fault.IsOverlong := by
  have bounded : ∀ {question number}, limit vocabulary question = .ok number →
      number ≤ vocabulary.limits.maximum := by
    intro question number found
    rcases limit_drawn found with small | rfl
    · exact small
    · exact (Vocabulary.wellFormed_of_read accepted).defaultRanked
  refine ⟨fun question => ?_, fun given maximum => ?_, fun question => ?_, fun given maximum => ?_⟩
  · rw [← (hinges_limit vocabulary question).exists_iff]
    exact ⟨fun ⟨number, _, found⟩ => ⟨number, found⟩,
      fun ⟨number, found⟩ => ⟨number, bounded found, found⟩⟩
  · rw [← (hinges_validLimit given maximum).exists_iff]
    exact ⟨fun ⟨number, _, found⟩ => ⟨number, found⟩,
      fun ⟨number, found⟩ => ⟨number, validLimit_le found, found⟩⟩
  · exact (hinges_limit vocabulary question).possible_of_error
  · exact (hinges_validLimit given maximum).possible_of_error

/-! ## A vocabulary with a limit pattern -/

/-- A source with one limit pattern, a number behind a word. -/
def limitedSource : Value := .record
  [("schema", ((Vocabulary.sampleSource.entries.toOption).bind
     (Value.lookup? "schema")).getD .null),
   ("limits", .record [("patterns", .texts ["top\\s+([0-9]+)"])])]

/-- The vocabulary that `limitedSource` describes. -/
def limitedVocabulary : Vocabulary where
  version := .int 1
  schema := Vocabulary.sampleVocabulary.schema
  departments := []
  dateRanges := []
  aggregations := []
  metrics := []
  comparisons := []
  limits :=
    { patterns := [{ source := "top\\s+([0-9]+)", pattern := Vocabulary.wordBeforeNumber "top" }]
      defaultRanked := 10
      maximum := 1000 }

set_option maxRecDepth 20000 in
theorem read_limitedSource : Vocabulary.read limitedSource = .ok limitedVocabulary := by
  with_unfolding_all rfl

theorem exists_limit_le_limited :
    (∃ number ≤ 1000, limit limitedVocabulary "Top 007 rain" = .ok number) ∧
      ∃ number ≤ 50, validLimit (.text "007") 50 = .ok number := by
  obtain ⟨found, judged, -⟩ := exists_limit_le_iff read_limitedSource
  constructor
  · exact (found "Top 007 rain").mpr (not_capturesOverlong_of_short (by decide))
  · exact (judged (.text "007") 50).mpr (Decimal.not_isOverlong_of_short (by decide))

/-- All the digits behind the word are the row limit that is asked for. -/
theorem limit_limitedVocabulary {digits : Text} (plain : Decimal.isPlain digits = true) :
    limit limitedVocabulary ("top" ++ ' ' :: digits) = boundedLimit digits 1000 := by
  have word : ∀ c ∈ ("top" : Text), Text.isSmall c = true := List.all_eq_true.mp (by decide)
  have number : ∀ c ∈ digits, Text.isSmall c = true := by
    intro c member
    have bounds := Decimal.bounds_of_isDigit ((Decimal.isPlain_iff.mp plain).2 c member)
    refine Text.isSmall_of_ascii (by omega) (Bool.eq_false_iff.mpr fun upper => ?_)
    have capital := Text.isUpper_iff.mp upper
    omega
  have small : ∀ c ∈ ("top" : Text) ++ ' ' :: digits, Text.isSmall c = true :=
    List.forall_mem_append.mpr ⟨word, List.forall_mem_cons.mpr ⟨by decide, number⟩⟩
  obtain ⟨spot, matched, captured⟩ := Pattern.exists_search_wordBeforeNumber "top" plain
  have found : limitedVocabulary.limits.patterns.findSome?
      (fun rule => rule.pattern.search (("top" : Text) ++ ' ' :: digits)) = some spot := by
    simp only [limitedVocabulary, List.findSome?_cons, matched]
  simp only [limit, Text.lower_eq_self small, found, firstCapture, captured]
  rfl

/-- A question for a number of rows with one digit too many stops the extraction, and so does the
number itself. -/
theorem overlong_limit_stops :
    Vocabulary.read limitedSource = .ok limitedVocabulary ∧
      limit limitedVocabulary ("top" ++ ' ' :: List.replicate 4301 '1') =
        .error (.integerTooLong 4301) ∧
      validLimit (.text (List.replicate 4301 '1')) 1000 = .error (.integerTooLong 4301) := by
  have overlong : Decimal.IsOverlong (List.replicate 4301 '1') :=
    Decimal.isOverlong_replicate (by decide)
  have stopped := boundedLimit_of_isOverlong overlong 1000
  rw [List.length_replicate] at stopped
  refine ⟨read_limitedSource, ?_, stopped⟩
  rw [limit_limitedVocabulary overlong.1, stopped]

end Extraction

end Inquiry
