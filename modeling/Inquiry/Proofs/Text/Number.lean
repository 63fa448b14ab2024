import Inquiry.Proofs.Safety.Keyword
import Inquiry.Proofs.Text.Stripped

/-!
# Numbers beside words

A number is named by the word next to it: blanks stand between, and all the digits belong to the
number.  Of several numbers the leftmost one counts, and one way of naming may come before another.

Blanks around a text hide no number and add none.
-/

namespace Inquiry.Text

/-- A way of naming a number: in a text, behind what stands before, with digits. -/
abbrev Naming := Text → Text → Text → Prop

/-- The word, blanks and a number, the number with all its digits. -/
inductive NumberBehind (word : Text) : Naming where
  | intro {before blanks digits after : Text} :
      blanks ≠ [] → (∀ c ∈ blanks, isAsciiBlank c = true) →
      Decimal.isPlain digits = true → after.head?.any isAsciiDigit = false →
      NumberBehind word (before ++ (word ++ (blanks ++ (digits ++ after)))) before digits

/-- A number with all its digits, blanks and one of the words. -/
inductive NumberBefore (words : List Text) : Naming where
  | intro {before digits blanks word after : Text} :
      before.getLast?.any isAsciiDigit = false → Decimal.isPlain digits = true →
      blanks ≠ [] → (∀ c ∈ blanks, isAsciiBlank c = true) → word ∈ words →
      NumberBefore words (before ++ (digits ++ (blanks ++ (word ++ after)))) before digits

/-- A number is named here and none is named further to the left. -/
structure Leftmost (naming : Naming) (text before digits : Text) : Prop where
  named : naming text before digits
  first : ∀ earlier others, naming text earlier others → before.length ≤ earlier.length

/-- The number that a text names, if any: the first way of naming that names one decides, and its
leftmost number is the one. -/
inductive Named (text : Text) : List Naming → Option Text → Prop where
  | nowhere : Named text [] none
  | here {naming : Naming} {others : List Naming} {before digits : Text} :
      Leftmost naming text before digits → Named text (naming :: others) (some digits)
  | later {naming : Naming} {others : List Naming} {found : Option Text} :
      (∀ before digits, ¬naming text before digits) → Named text others found →
      Named text (naming :: others) found

theorem exists_leftmost {naming : Naming} {text before digits : Text}
    (named : naming text before digits) :
    ∃ first number, Leftmost naming text first number := by
  classical
  have somewhere : ∃ place, ∃ first number, naming text first number ∧ first.length = place :=
    ⟨before.length, before, digits, named, rfl⟩
  obtain ⟨first, number, here, place⟩ := Nat.find_spec somewhere
  exact ⟨first, number, here, fun earlier others there =>
    place ▸ Nat.find_min' somewhere ⟨earlier, others, there, rfl⟩⟩

theorem exists_named (text : Text) (namings : List Naming) :
    ∃ found, Named text namings found := by
  induction namings with
  | nil => exact ⟨none, .nowhere⟩
  | cons naming others ih =>
      by_cases somewhere : ∃ before digits, naming text before digits
      · obtain ⟨before, digits, named⟩ := somewhere
        obtain ⟨first, number, leftmost⟩ := exists_leftmost named
        exact ⟨some number, .here leftmost⟩
      · obtain ⟨found, later⟩ := ih
        simp only [not_exists] at somewhere
        exact ⟨found, .later somewhere later⟩

/-- The number that is found is named in one of the ways. -/
theorem Named.exists_naming {text digits : Text} {namings : List Naming}
    (named : Named text namings (some digits)) :
    ∃ naming ∈ namings, ∃ before, naming text before digits := by
  generalize found : some digits = number at named
  induction named with
  | nowhere => cases found
  | here leftmost =>
      cases found
      exact ⟨_, List.mem_cons_self, _, leftmost.named⟩
  | later _ _ ih =>
      obtain ⟨naming, listed, before, there⟩ := ih found
      exact ⟨naming, List.mem_cons_of_mem _ listed, before, there⟩

/-! ## Digits of a number -/

theorem NumberBehind.digits {word text before digits : Text}
    (named : NumberBehind word text before digits) :
    Decimal.isPlain digits = true ∧ digits <:+: text := by
  obtain @⟨_, blanks, _, after, -, -, plain, -⟩ := named
  refine ⟨plain, before ++ (word ++ blanks), after, ?_⟩
  simp only [List.append_assoc]

theorem NumberBefore.digits {words : List Text} {text before digits : Text}
    (named : NumberBefore words text before digits) :
    Decimal.isPlain digits = true ∧ digits <:+: text := by
  obtain @⟨_, _, blanks, word, after, -, plain, -, -, -⟩ := named
  refine ⟨plain, before, blanks ++ (word ++ after), ?_⟩
  simp only [List.append_assoc]

/-- The one character with a longer small form has no digit in it. -/
theorem countP_digits_lowerChar_le (c : Char) : (lowerChar c).countP isAsciiDigit ≤ 1 := by
  rw [lowerChar]
  split
  next => exact List.countP_le_length
  next =>
    rw [shifted]
    by_cases single : c.toNat = 304
    · have long : lowerExpansions.lookup c.toNat = some [105, 775] := by rw [single]; rfl
      rw [long]
      exact (by decide : ([105, 775].map Char.ofNat).countP isAsciiDigit ≤ 1)
    · rw [lookup_lowerExpansions single]
      simp only
      split <;> exact List.countP_le_length

/-- A text has no more digits in small letters than it has characters. -/
theorem countP_digits_lower_le (text : Text) :
    (lower text).countP isAsciiDigit ≤ text.length := by
  suffices general : ∀ before, (lowerFrom before text).countP isAsciiDigit ≤ text.length from
    general []
  induction text with
  | nil => exact fun _ => le_rfl
  | cons c rest ih =>
      intro before
      have here : (smallForm before c rest).countP isAsciiDigit ≤ 1 := by
        rw [smallForm]
        split
        · split <;> exact List.countP_le_length
        · exact countP_digits_lowerChar_le c
      have later := ih (c :: before)
      rw [lowerFrom_cons, List.countP_append, List.length_cons]
      omega

theorem length_digits_le {digits text : Text} (plain : Decimal.isPlain digits = true)
    (within : digits <:+: lower text) : digits.length ≤ text.length := by
  calc digits.length
      = digits.countP isAsciiDigit :=
        (List.countP_eq_length.mpr (Decimal.isPlain_iff.mp plain).2).symm
    _ ≤ (lower text).countP isAsciiDigit := within.sublist.countP_le
    _ ≤ text.length := countP_digits_lower_le text

/-! ## Blanks around a text -/

theorem isAsciiDigit_of_isBlank {c : Char} (blank : isBlank c = true) :
    isAsciiDigit c = false :=
  Safety.outside_of_isBlank (by decide +kernel) blank

theorem isBlank_of_isAsciiBlank {c : Char} (blank : isAsciiBlank c = true) :
    isBlank c = true := by
  simp only [isAsciiBlank, Bool.or_eq_true, Bool.and_eq_true, decide_eq_true_eq, beq_iff_eq]
    at blank
  rcases blank with rfl | between
  · rfl
  · simp [isBlank, between]

/-- What ends a number ends it in front of blanks too. -/
theorem undigit_append {after trailing : Text} (blanks : ∀ c ∈ trailing, isBlank c = true)
    (ends : after.head?.any isAsciiDigit = false) :
    (after ++ trailing).head?.any isAsciiDigit = false := by
  cases after with
  | nil => exact head?_of_outside fun c member => isAsciiDigit_of_isBlank (blanks c member)
  | cons c rest => exact ends

theorem append_undigit {leading before : Text} (blanks : ∀ c ∈ leading, isBlank c = true)
    (begins : before.getLast?.any isAsciiDigit = false) :
    (leading ++ before).getLast?.any isAsciiDigit = false := by
  by_cases empty : before = []
  · rw [empty, List.append_nil]
    exact getLast?_of_outside fun c member => isAsciiDigit_of_isBlank (blanks c member)
  · rwa [List.getLast?_append_of_ne_nil _ empty]

theorem undigit_of_append {after trailing : Text}
    (ends : (after ++ trailing).head?.any isAsciiDigit = false) :
    after.head?.any isAsciiDigit = false := by
  cases after with
  | nil => rfl
  | cons c rest => exact ends

theorem undigit_of_append_left {leading before : Text}
    (begins : (leading ++ before).getLast?.any isAsciiDigit = false) :
    before.getLast?.any isAsciiDigit = false := by
  by_cases empty : before = []
  · rw [empty]
    rfl
  · rwa [List.getLast?_append_of_ne_nil _ empty] at begins

/-- Blanks around a text make no difference to the numbers that are named in it. -/
structure IgnoresMargins (naming : Naming) : Prop where
  widen : ∀ {leading text trailing before digits : Text}, (∀ c ∈ leading, isBlank c = true) →
    (∀ c ∈ trailing, isBlank c = true) → naming text before digits →
      naming (leading ++ (text ++ trailing)) (leading ++ before) digits
  narrow : ∀ {leading text trailing before digits : Text}, (∀ c ∈ leading, isBlank c = true) →
    (∀ c ∈ trailing, isBlank c = true) → naming (leading ++ (text ++ trailing)) before digits →
      ∃ front, before = leading ++ front ∧ naming text front digits

/-- A word neither begins nor ends with a blank. -/
structure IsInked (word : Text) : Prop where
  nonempty : word ≠ []
  begins : word.head?.any isBlank = false
  ends : word.getLast?.any isBlank = false

instance (word : Text) : Decidable (IsInked word) :=
  decidable_of_iff
    (word ≠ [] ∧ word.head?.any isBlank = false ∧ word.getLast?.any isBlank = false)
    ⟨fun ⟨nonempty, begins, ends⟩ => ⟨nonempty, begins, ends⟩,
      fun inked => ⟨inked.nonempty, inked.begins, inked.ends⟩⟩

theorem isInked_of_isPlain {digits : Text} (plain : Decimal.isPlain digits = true) :
    IsInked digits := by
  obtain ⟨nonempty, ascii⟩ := Decimal.isPlain_iff.mp plain
  have inked : ∀ c ∈ digits, isBlank c = false :=
    fun c member => Safety.isBlank_of_isDigit (ascii c member)
  exact ⟨nonempty, head?_of_outside inked, getLast?_of_outside inked⟩

/-- Where words stand at both ends, no blanks do. -/
theorem IsInked.append {first last : Text} (begins : IsInked first) (ends : IsInked last)
    (between : Text) : IsInked (first ++ (between ++ last)) where
  nonempty := List.append_ne_nil_of_left_ne_nil begins.nonempty _
  begins := by rw [List.head?_append_of_ne_nil _ begins.nonempty, begins.begins]
  ends := by
    rw [List.getLast?_append_of_ne_nil _ (List.append_ne_nil_of_right_ne_nil _ ends.nonempty),
      List.getLast?_append_of_ne_nil _ ends.nonempty, ends.ends]

theorem ignoresMargins_numberBehind {word : Text} (inked : IsInked word) :
    IgnoresMargins (NumberBehind word) where
  widen := by
    rintro leading _ trailing before digits - blanksAfter
      @⟨_, blanks, _, after, nonempty, blank, plain, ends⟩
    have wider : NumberBehind word
        ((leading ++ before) ++ (word ++ (blanks ++ (digits ++ (after ++ trailing)))))
        (leading ++ before) digits :=
      .intro nonempty blank plain (undigit_append blanksAfter ends)
    simpa only [List.append_assoc] using wider
  narrow := by
    intro leading text trailing before digits blanksBefore blanksAfter named
    generalize whole : leading ++ (text ++ trailing) = wide at named
    obtain @⟨_, blanks, _, after, nonempty, blank, plain, ends⟩ := named
    have piece := inked.append (isInked_of_isPlain plain) blanks
    have parted : leading ++ (text ++ trailing) =
        before ++ ((word ++ (blanks ++ digits)) ++ after) := by
      simpa only [List.append_assoc] using whole
    obtain ⟨front, back, rfl, moved, rfl⟩ := exists_parted_between parted blanksBefore blanksAfter
      piece.nonempty piece.begins piece.ends
    refine ⟨front, moved, ?_⟩
    simpa only [List.append_assoc] using
      NumberBehind.intro nonempty blank plain (undigit_of_append ends)

theorem ignoresMargins_numberBefore {words : List Text} (inked : ∀ word ∈ words, IsInked word) :
    IgnoresMargins (NumberBefore words) where
  widen := by
    rintro leading _ trailing before digits blanksBefore -
      @⟨_, _, blanks, word, after, begins, plain, nonempty, blank, listed⟩
    have wider : NumberBefore words
        ((leading ++ before) ++ (digits ++ (blanks ++ (word ++ (after ++ trailing)))))
        (leading ++ before) digits :=
      .intro (append_undigit blanksBefore begins) plain nonempty blank listed
    simpa only [List.append_assoc] using wider
  narrow := by
    intro leading text trailing before digits blanksBefore blanksAfter named
    generalize whole : leading ++ (text ++ trailing) = wide at named
    obtain @⟨_, _, blanks, word, after, begins, plain, nonempty, blank, listed⟩ := named
    have piece := (isInked_of_isPlain plain).append (inked word listed) blanks
    have parted : leading ++ (text ++ trailing) =
        before ++ ((digits ++ (blanks ++ word)) ++ after) := by
      simpa only [List.append_assoc] using whole
    obtain ⟨front, back, rfl, rfl, -⟩ := exists_parted_between parted blanksBefore blanksAfter
      piece.nonempty piece.begins piece.ends
    refine ⟨front, rfl, ?_⟩
    simpa only [List.append_assoc] using
      NumberBefore.intro (undigit_of_append_left begins) plain nonempty blank listed

/-- Blanks around a text make no difference to the number that it names. -/
theorem Named.widen {leading text trailing : Text} {namings : List Naming} {found : Option Text}
    (named : Named text namings found) (ignore : ∀ naming ∈ namings, IgnoresMargins naming)
    (blanksBefore : ∀ c ∈ leading, isBlank c = true)
    (blanksAfter : ∀ c ∈ trailing, isBlank c = true) :
    Named (leading ++ (text ++ trailing)) namings found := by
  induction named with
  | nowhere => exact .nowhere
  | @here naming others before digits leftmost =>
      have margins := ignore naming List.mem_cons_self
      refine .here ⟨margins.widen blanksBefore blanksAfter leftmost.named, ?_⟩
      intro earlier other there
      obtain ⟨front, rfl, within⟩ := margins.narrow blanksBefore blanksAfter there
      have first := leftmost.first front other within
      simp only [List.length_append]
      omega
  | @later naming others found absent _ ih =>
      rw [List.forall_mem_cons] at ignore
      refine .later ?_ (ih ignore.2)
      intro before digits there
      obtain ⟨front, -, within⟩ := ignore.1.narrow blanksBefore blanksAfter there
      exact absent front digits within

end Inquiry.Text
