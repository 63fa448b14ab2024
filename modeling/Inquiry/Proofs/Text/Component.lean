import Inquiry.Proofs.Text.Stripped

/-!
# The last component of a name

The last component of a name is what stands behind its last point.  In small letters it depends
neither on the case of ASCII letters nor, if it is ASCII, on what stands before the point.

What stands before may reach beyond ASCII: the word-final test passes over points, so a sigma that
begins a component may take its final form.
-/

namespace Inquiry.Text

/-! ## Behind the last mark -/

section AfterLast

variable {mark : Char} {text : Text}

theorem afterLast_of_not_mem (absent : mark ∉ text) : afterLast mark text = text := by
  have all : ∀ c ∈ text.reverse, decide (c ≠ mark) = true := by
    intro c member
    have other : c ≠ mark := by
      rintro rfl
      exact absent (List.mem_reverse.mp member)
    simpa using other
  rw [afterLast, List.takeWhile_eq_self_iff.mpr all, List.reverse_reverse]

/-- What stands before a mark does not belong to the last component. -/
theorem afterLast_append_mark (mark : Char) (left right : Text) :
    afterLast mark (left ++ mark :: right) = afterLast mark right := by
  have ends : (left ++ mark :: right).reverse = right.reverse ++ mark :: left.reverse := by
    rw [List.reverse_append, List.reverse_cons, List.append_assoc, List.singleton_append]
  rw [afterLast, ends, List.takeWhile_append, afterLast]
  split
  next whole =>
    have all : right.reverse.takeWhile (· ≠ mark) = right.reverse :=
      (List.takeWhile_prefix _).eq_of_length whole
    rw [List.takeWhile_cons_of_neg (by simp), List.append_nil, all]
  next => rfl

/-- A text with the mark in it goes on with its last component behind the mark. -/
theorem exists_append_afterLast (member : mark ∈ text) :
    ∃ before, text = before ++ mark :: afterLast mark text := by
  obtain ⟨ending, front, reversed, absent⟩ :=
    List.eq_append_cons_of_mem (List.mem_reverse.mpr member)
  have whole : text = front.reverse ++ mark :: ending.reverse := by
    rw [← List.reverse_reverse text, reversed, List.reverse_append, List.reverse_cons,
      List.append_assoc, List.singleton_append]
  refine ⟨front.reverse, ?_⟩
  rw [whole, afterLast_append_mark, afterLast_of_not_mem (by simpa using absent)]

end AfterLast

/-! ## The case of ASCII letters -/

/-- Capital letters of ASCII and their small forms are letters to the word-final test. -/
theorem capitals_cased : ((List.range' 65 26).all fun point => [point, point + 32].all fun either =>
    !Span.covers caseIgnorableSpans either && Span.covers casedSpans either) = true := by
  decide +kernel

theorem cased_of_isUpper {c : Char} (upper : c.isUpper = true) :
    (isCaseIgnorable c = false ∧ isCased c = true) ∧
      isCaseIgnorable c.toLower = false ∧ isCased c.toLower = true := by
  have within := isUpper_iff.mp upper
  have point : c.toLower.toNat = c.toNat + 32 := by
    rw [Char.toLower_eq_of_isUpper upper, toNat_ofNat (by rw [Nat.isValidChar]; omega)]
  have letters := List.all_eq_true.mp capitals_cased c.toNat (by rw [List.mem_range'_1]; omega)
  simpa [isCaseIgnorable, isCased, point] using letters

theorem isCaseIgnorable_toLower (c : Char) : isCaseIgnorable c.toLower = isCaseIgnorable c := by
  by_cases upper : c.isUpper = true
  · obtain ⟨⟨before, -⟩, after, -⟩ := cased_of_isUpper upper
    rw [before, after]
  · rw [Char.toLower_eq_of_not_isUpper upper]

theorem isCased_toLower (c : Char) : isCased c.toLower = isCased c := by
  by_cases upper : c.isUpper = true
  · obtain ⟨⟨-, before⟩, -, after⟩ := cased_of_isUpper upper
    rw [before, after]
  · rw [Char.toLower_eq_of_not_isUpper upper]

theorem meetsCased_map_toLower (text : Text) :
    meetsCased (text.map Char.toLower) = meetsCased text := by
  have passes : (fun c => !isCaseIgnorable c) ∘ Char.toLower = fun c => !isCaseIgnorable c := by
    funext c
    simp only [Function.comp_apply, isCaseIgnorable_toLower]
  rw [meetsCased, meetsCased, List.find?_map, passes]
  cases text.find? fun c => !isCaseIgnorable c with
  | none => rfl
  | some c => exact isCased_toLower c

theorem lowerChar_toLower (c : Char) : lowerChar c.toLower = lowerChar c := by
  by_cases upper : c.isUpper = true
  · have ascii : c.toNat < 128 := by
      have within := isUpper_iff.mp upper
      omega
    rw [lowerChar_of_isSmall (isSmall_toLower ascii), lowerChar, if_pos ascii]
  · rw [Char.toLower_eq_of_not_isUpper upper]

theorem smallForm_map_toLower (before : Text) (c : Char) (rest : Text) :
    smallForm (before.map Char.toLower) c.toLower (rest.map Char.toLower) =
      smallForm before c rest := by
  have sigma : c.toLower = 'Σ' ↔ c = 'Σ' := by
    by_cases upper : c.isUpper = true
    · have within := isUpper_iff.mp upper
      constructor
      · intro same
        have ascii : c.toLower.toNat < 128 := ascii_toLower (by omega)
        rw [same] at ascii
        exact absurd ascii (by decide)
      · rintro rfl
        exact absurd upper (by decide)
    · rw [Char.toLower_eq_of_not_isUpper upper]
  simp only [smallForm, meetsCased_map_toLower, lowerChar_toLower, sigma]

/-- The small form of a text does not depend on the case of its ASCII letters. -/
theorem lower_map_toLower (text : Text) : lower (text.map Char.toLower) = lower text := by
  suffices general : ∀ before : Text, lowerFrom (before.map Char.toLower) (text.map Char.toLower) =
    lowerFrom before text from general []
  induction text with
  | nil => exact fun _ => rfl
  | cons c rest ih =>
      intro before
      rw [List.map_cons, lowerFrom_cons, lowerFrom_cons, smallForm_map_toLower, ← List.map_cons, ih]

/-- Two texts that differ in the case of ASCII letters alone. -/
def SameLetters (left right : Text) : Prop :=
  left.map Char.toLower = right.map Char.toLower

instance (left right : Text) : Decidable (SameLetters left right) :=
  inferInstanceAs (Decidable (_ = _))

theorem SameLetters.lower_eq {left right : Text} (same : SameLetters left right) :
    lower left = lower right := by
  rw [← lower_map_toLower left, same, lower_map_toLower]

/-! ## What stands before the last point -/

/-- An ASCII character as it is, and one and the same character for all others. -/
def asciiForm (c : Char) : Char :=
  if c.toNat < 128 then c else 'Σ'

theorem asciiForm_eq_iff {c d : Char} (ascii : d.toNat < 128) : asciiForm c = d ↔ c = d := by
  rw [asciiForm]
  split
  next => exact Iff.rfl
  next beyond =>
    constructor
    · rintro rfl
      exact absurd ascii (by decide)
    · rintro rfl
      exact absurd ascii beyond

theorem map_asciiForm_eq_iff {text ascii : Text} (all : ∀ c ∈ ascii, c.toNat < 128) :
    text.map asciiForm = ascii ↔ text = ascii := by
  induction text generalizing ascii with
  | nil => exact Iff.rfl
  | cons c rest ih =>
      cases ascii with
      | nil => simp
      | cons d others =>
          rw [List.forall_mem_cons] at all
          rw [List.map_cons, List.cons.injEq, List.cons.injEq, asciiForm_eq_iff all.1, ih all.2]

theorem afterLast_map_asciiForm {mark : Char} (ascii : mark.toNat < 128) (text : Text) :
    afterLast mark (text.map asciiForm) = (afterLast mark text).map asciiForm := by
  have marks : (fun c => decide (c ≠ mark)) ∘ asciiForm = fun c => decide (c ≠ mark) := by
    funext c
    simp only [Function.comp_apply, ne_eq, asciiForm_eq_iff ascii]
  rw [afterLast, ← List.map_reverse, List.takeWhile_map, marks, ← List.map_reverse, afterLast]

/-- Up to characters beyond ASCII, a small form does not depend on the characters before. -/
theorem smallForm_asciiForm (before other : Text) (c : Char) (rest : Text) :
    (smallForm before c rest).map asciiForm = (smallForm other c rest).map asciiForm := by
  have sigmas : asciiForm 'ς' = 'Σ' ∧ asciiForm 'σ' = 'Σ' := by decide
  simp only [smallForm]
  split
  · split <;> split <;> simp [sigmas]
  · rfl

theorem lowerFrom_asciiForm (before other text : Text) :
    (lowerFrom before text).map asciiForm = (lowerFrom other text).map asciiForm := by
  induction text generalizing before other with
  | nil => rfl
  | cons c rest ih =>
      rw [lowerFrom_cons, lowerFrom_cons, List.map_append, List.map_append,
        smallForm_asciiForm before other, ih (c :: before) (c :: other)]

theorem exists_lowerFrom_append (before left right : Text) :
    ∃ front, lowerFrom before (left ++ right) =
      front ++ lowerFrom (left.reverse ++ before) right := by
  induction left generalizing before with
  | nil => exact ⟨[], rfl⟩
  | cons c rest ih =>
      obtain ⟨front, found⟩ := ih (c :: before)
      refine ⟨smallForm before c (rest ++ right) ++ front, ?_⟩
      rw [List.cons_append, lowerFrom_cons, found, List.reverse_cons, List.append_assoc,
        List.append_assoc, List.singleton_append]

/-- A text with another one before it and a point between them has an ASCII text for its last
component exactly if it has it alone. -/
theorem afterLast_lower_qualified {component : Text} (ascii : ∀ c ∈ component, c.toNat < 128)
    (schema name : Text) : afterLast '.' (lower (schema ++ '.' :: name)) = component ↔
      afterLast '.' (lower name) = component := by
  have point : ∀ before rest, smallForm before '.' rest = ['.'] := fun before rest => by
    rw [smallForm, if_neg (by decide)]
    decide
  obtain ⟨front, whole⟩ := exists_lowerFrom_append [] schema ('.' :: name)
  rw [lowerFrom_cons, point, List.singleton_append] at whole
  rw [lower, whole, afterLast_append_mark, ← map_asciiForm_eq_iff ascii,
    ← afterLast_map_asciiForm (by decide), lowerFrom_asciiForm _ [],
    afterLast_map_asciiForm (by decide), map_asciiForm_eq_iff ascii, lower]

end Inquiry.Text
