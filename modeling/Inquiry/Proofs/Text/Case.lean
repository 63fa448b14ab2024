import Inquiry.Proofs.Text.Basic
import Inquiry.Text.Case

/-!
# Texts in small letters

A character that comes out of the case table does not enter it again, so a text
in small letters stays as it is.  A text grows by at most one character for each
of its characters.
-/

namespace Inquiry.Text

/-! ## The table -/

/-- The capital letters of ASCII, the letter that becomes two, and the runs of the table. -/
def capitalRuns : List Shift :=
  ⟨65, 90, 1, 32⟩ :: ⟨304, 304, 1, 0⟩ :: lowerShifts

/-- Turning the character into a small letter leaves it as it is. -/
def isSmall (c : Char) : Bool :=
  capitalRuns.all fun run => (run.shifted? c.toNat).isNone

/-- The image of the first code point of a run. -/
def Shift.start (run : Shift) : Nat :=
  (run.first + run.shift).toNat

/-- No image of a code point of the run lies in the other one.  Two runs of every second
letter may also lie between each other. -/
def Shift.misses (run other : Shift) : Bool :=
  (run.start + (run.last - run.first)).blt other.first || other.last.blt run.start ||
    ((run.step.beq 2 || run.first.beq run.last) && other.step.beq 2 &&
      ((run.start + other.first) % 2).beq 1)

/-- The images of the run are code points beyond the other one, and no code points of
surrogates. -/
def Shift.isSound (run : Shift) : Bool :=
  Nat.blt 0 run.start && (run.start + (run.last - run.first)).blt 0xD800 ||
    Nat.blt 0xDFFF run.start && (run.start + (run.last - run.first)).blt 0x110000

theorem lowerShifts_sound :
    (lowerShifts.all fun run => run.isSound && capitalRuns.all run.misses) = true := by
  decide +kernel

theorem toNat_ofNat {point : Nat} (valid : point.isValidChar) :
    (Char.ofNat point).toNat = point := by
  rw [Char.ofNat, dif_pos valid]
  rfl

namespace Shift

variable {run other : Shift} {point image : Nat}

/-- An image lies between that of the first code point and that of the last one, and a
whole number of steps behind the former. -/
theorem shifted?_eq_some (sound : 0 < run.start)
    (found : run.shifted? point = some image) :
    run.start ≤ image ∧ image ≤ run.start + (run.last - run.first) ∧
      (run.first = run.last → image = run.start) ∧ (image - run.start) % run.step = 0 := by
  simp only [shifted?] at found
  split at found
  next within =>
    have moved : image = run.start + (point - run.first) := by
      simp only [start, Option.some.injEq] at found sound ⊢
      omega
    obtain ⟨from_first, to_last, steps⟩ := within
    refine ⟨by omega, by omega, by omega, ?_⟩
    rw [moved, Nat.add_sub_cancel_left]
    exact steps
  next => cases found

theorem between_of_shifted? (found : run.shifted? point = some image) :
    run.first ≤ point ∧ point ≤ run.last := by
  simp only [shifted?] at found
  split at found
  next within => exact ⟨within.1, within.2.1⟩
  next => cases found

theorem isValidChar_image (sound : run.isSound = true)
    (found : run.shifted? point = some image) : image.isValidChar := by
  simp only [isSound, Nat.blt_eq, Bool.or_eq_true, Bool.and_eq_true] at sound
  have between := shifted?_eq_some (by omega) found
  rw [Nat.isValidChar]
  omega

/-- A run that misses another one leads out of it. -/
theorem shifted?_image (sound : run.isSound = true) (apart : run.misses other = true)
    (found : run.shifted? point = some image) : other.shifted? image = none := by
  simp only [isSound, Nat.blt_eq, Bool.or_eq_true, Bool.and_eq_true] at sound
  obtain ⟨low, high, single, steps⟩ := shifted?_eq_some (by omega) found
  simp only [misses, Nat.blt_eq, Bool.or_eq_true, Bool.and_eq_true, Nat.beq_eq] at apart
  rw [shifted?, if_neg]
  rintro ⟨otherLow, otherHigh, otherSteps⟩
  rcases apart with (before | behind) | ⟨⟨alternating | alone, otherStep⟩, odd⟩
  · omega
  · omega
  · rw [alternating] at steps
    rw [otherStep] at otherSteps
    omega
  · have here := single alone
    rw [otherStep] at otherSteps
    omega

end Shift

/-! ## Single characters -/

theorem isSmall_iff {c : Char} :
    isSmall c = true ↔ ∀ run ∈ capitalRuns, run.shifted? c.toNat = none := by
  simp [isSmall]

theorem isUpper_iff {c : Char} : c.isUpper = true ↔ 65 ≤ c.toNat ∧ c.toNat ≤ 90 := by
  simp [Char.isUpper, UInt32.le_iff_toNat_le]

theorem ascii_of_isAlphanum {c : Char} (part : c.isAlphanum = true) : c.toNat < 128 := by
  simp only [Char.isAlphanum, Char.isAlpha, Char.isUpper, Char.isLower, Char.isDigit,
    Bool.or_eq_true, Bool.and_eq_true, decide_eq_true_eq, ge_iff_le,
    UInt32.le_iff_toNat_le] at part
  have code : c.toNat = c.val.toNat := rfl
  have last : 'Z'.val.toNat = 90 ∧ 'z'.val.toNat = 122 ∧ '9'.val.toNat = 57 := ⟨rfl, rfl, rfl⟩
  omega

/-- A small ASCII character is held by no run. -/
theorem isSmall_of_ascii {c : Char} (ascii : c.toNat < 128) (small : c.isUpper = false) :
    isSmall c = true := by
  have beyond : ∀ run ∈ (⟨304, 304, 1, 0⟩ : Shift) :: lowerShifts, 128 ≤ run.first := by
    decide +kernel
  rw [isSmall_iff, capitalRuns, List.forall_mem_cons]
  constructor
  · rw [Shift.shifted?, if_neg]
    rintro ⟨low, high, -⟩
    rw [isUpper_iff.mpr ⟨low, high⟩] at small
    cases small
  · intro run member
    have first := beyond run member
    rw [Shift.shifted?, if_neg (by omega)]

theorem ascii_toLower {c : Char} (ascii : c.toNat < 128) : c.toLower.toNat < 128 := by
  by_cases upper : c.isUpper = true
  · have within := isUpper_iff.mp upper
    rw [Char.toLower_eq_of_isUpper upper, toNat_ofNat (by rw [Nat.isValidChar]; omega)]
    omega
  · rw [Char.toLower_eq_of_not_isUpper upper]
    exact ascii

theorem isSmall_toLower {c : Char} (ascii : c.toNat < 128) : isSmall c.toLower = true :=
  isSmall_of_ascii (ascii_toLower ascii) (Char.isUpper_toLower_eq_false c)

theorem lookup_lowerExpansions {c : Char} (single : c.toNat ≠ 304) :
    lowerExpansions.lookup c.toNat = none := by
  simp [lowerExpansions, single]

theorem lowerChar_of_isSmall {c : Char} (small : isSmall c = true) : lowerChar c = [c] := by
  rw [isSmall_iff, capitalRuns, List.forall_mem_cons, List.forall_mem_cons] at small
  obtain ⟨ascii, double, others⟩ := small
  rw [lowerChar]
  split
  next =>
    have lower : ¬c.isUpper = true := by
      intro upper
      have within := isUpper_iff.mp upper
      simp [Shift.shifted?, within] at ascii
      omega
    rw [Char.toLower_eq_of_not_isUpper lower]
  next =>
    have single : c.toNat ≠ 304 := by
      intro same
      simp [Shift.shifted?, same] at double
    rw [shifted, lookup_lowerExpansions single, List.findSome?_eq_none_iff.mpr others]

theorem isSmall_of_expansion {c : Char} (member : c ∈ [Char.ofNat 105, Char.ofNat 775]) :
    isSmall c = true := by
  have all : ([Char.ofNat 105, Char.ofNat 775].all isSmall) = true := by decide +kernel
  exact List.all_eq_true.mp all c member

theorem isSmall_of_shifted {run : Shift} (listed : run ∈ lowerShifts) {point image : Nat}
    (moved : run.shifted? point = some image) : isSmall (Char.ofNat image) = true := by
  have sound := List.all_eq_true.mp lowerShifts_sound run listed
  rw [Bool.and_eq_true, List.all_eq_true] at sound
  rw [isSmall_iff, toNat_ofNat (Shift.isValidChar_image sound.1 moved)]
  intro other otherListed
  exact Shift.shifted?_image sound.1 (sound.2 other otherListed) moved

theorem isSmall_of_mem_lowerChar {c d : Char} (member : d ∈ lowerChar c) :
    isSmall d = true := by
  rw [lowerChar] at member
  split at member
  next ascii =>
    rw [List.mem_singleton.mp member]
    exact isSmall_toLower ascii
  next beyond =>
    rw [shifted] at member
    by_cases single : c.toNat = 304
    · exact isSmall_of_expansion (by simpa [single, lowerExpansions] using member)
    · rw [lookup_lowerExpansions single] at member
      simp only at member
      split at member
      next image found =>
        obtain ⟨run, listed, moved⟩ := List.exists_of_findSome?_eq_some found
        rw [List.mem_singleton.mp member]
        exact isSmall_of_shifted listed moved
      next unmoved =>
        rw [List.mem_singleton.mp member, isSmall_iff, capitalRuns, List.forall_mem_cons,
          List.forall_mem_cons]
        refine ⟨?_, ?_, List.findSome?_eq_none_iff.mp unmoved⟩
        · simp only [Shift.shifted?]
          rw [if_neg (by omega)]
        · simp only [Shift.shifted?]
          rw [if_neg (by omega)]

/-! ## Whole texts -/

theorem isSmall_of_mem_lowerFrom {before text : Text} {c : Char}
    (member : c ∈ lowerFrom before text) : isSmall c = true := by
  have sigmas : isSmall 'ς' = true ∧ isSmall 'σ' = true := by decide +kernel
  induction text generalizing before with
  | nil => simp [lowerFrom] at member
  | cons first rest ih =>
      simp only [lowerFrom, List.mem_append] at member
      rcases member with here | later
      · split at here
        next =>
          split at here
          · rw [List.mem_singleton.mp here]
            exact sigmas.1
          · rw [List.mem_singleton.mp here]
            exact sigmas.2
        next => exact isSmall_of_mem_lowerChar here
      · exact ih later

/-- A text in small letters stays as it is. -/
theorem lower_eq_self {text : Text} (small : ∀ c ∈ text, isSmall c = true) :
    lower text = text := by
  have capital : isSmall 'Σ' = false := by decide +kernel
  suffices general : ∀ before, lowerFrom before text = text from general []
  induction text with
  | nil => exact fun _ => rfl
  | cons c rest ih =>
      intro before
      rw [List.forall_mem_cons] at small
      have plain : c ≠ 'Σ' := by
        rintro rfl
        rw [capital] at small
        cases small.1
      rw [lowerFrom, ih small.2]
      simp only [if_neg plain, lowerChar_of_isSmall small.1, List.singleton_append]

/-- A question in small letters without the blanks at its ends stays as it is. -/
theorem lower_lower (text : Text) : lower (lower text) = lower text :=
  lower_eq_self fun _ => isSmall_of_mem_lowerFrom

theorem lower_strip_lower (text : Text) : lower (strip (lower text)) = strip (lower text) :=
  lower_eq_self fun _ member => isSmall_of_mem_lowerFrom ((infix_of_strip (lower text)).subset member)

theorem ascii_lower {text : Text} (ascii : ∀ c ∈ text, c.toNat < 128) :
    ∀ c ∈ lower text, c.toNat < 128 := by
  suffices general : ∀ before, ∀ c ∈ lowerFrom before text, c.toNat < 128 from general []
  induction text with
  | nil => simp [lowerFrom]
  | cons first rest ih =>
      intro before
      rw [List.forall_mem_cons] at ascii
      have plain : first ≠ 'Σ' := by
        rintro rfl
        exact absurd ascii.1 (by decide)
      rw [lowerFrom]
      simp only [if_neg plain, lowerChar, if_pos ascii.1, List.forall_mem_append,
        List.forall_mem_singleton]
      exact ⟨ascii_toLower ascii.1, ih ascii.2 _⟩

theorem length_lowerChar_le (c : Char) : (lowerChar c).length ≤ 2 := by
  rw [lowerChar]
  split
  next => simp
  next =>
    rw [shifted]
    by_cases single : c.toNat = 304
    · simp [single, lowerExpansions]
    · rw [lookup_lowerExpansions single]
      simp only
      split <;> simp

theorem length_lower_le (text : Text) : (lower text).length ≤ 2 * text.length := by
  suffices general : ∀ before, (lowerFrom before text).length ≤ 2 * text.length from general []
  induction text with
  | nil => simp [lowerFrom]
  | cons c rest ih =>
      intro before
      have later := ih (c :: before)
      have here : (if c = 'Σ' then
          if meetsCased before && !meetsCased rest then ['ς'] else ['σ']
        else lowerChar c).length ≤ 2 := by
        split
        · split <;> simp
        · exact length_lowerChar_le c
      rw [lowerFrom, List.length_append, List.length_cons]
      omega

/-! ## What is not blank -/

/-- The intervals of blanks. -/
def blankSpans : List Span :=
  [(9, 13), (28, 32), (0x85, 0x85), (0xA0, 0xA0), (0x1680, 0x1680), (0x2000, 0x200A),
   (0x2028, 0x2029), (0x202F, 0x202F), (0x205F, 0x205F), (0x3000, 0x3000)]

theorem isBlank_iff {c : Char} :
    isBlank c = true ↔ ∃ span ∈ blankSpans, span.1 ≤ c.toNat ∧ c.toNat ≤ span.2 := by
  simp only [isBlank, blankSpans, Bool.or_eq_true, Bool.and_eq_true, decide_eq_true_eq,
    beq_iff_eq, List.exists_mem_cons_iff, List.not_mem_nil, false_and, exists_false, or_false]
  omega

/-- No run of the table leads into the blanks. -/
theorem lowerShifts_inked : (lowerShifts.all fun run => blankSpans.all fun span =>
    (run.start + (run.last - run.first)).blt span.1 || span.2.blt run.start) = true := by
  decide +kernel

theorem isBlank_of_shifted {run : Shift} (listed : run ∈ lowerShifts) {point image : Nat}
    (moved : run.shifted? point = some image) : isBlank (Char.ofNat image) = false := by
  have sound := List.all_eq_true.mp lowerShifts_sound run listed
  have inked := List.all_eq_true.mp lowerShifts_inked run listed
  rw [Bool.and_eq_true] at sound
  have positive : 0 < run.start := by
    have bounds := sound.1
    simp only [Shift.isSound, Nat.blt_eq, Bool.or_eq_true, Bool.and_eq_true] at bounds
    omega
  have between := Shift.shifted?_eq_some positive moved
  rw [← Bool.not_eq_true, isBlank_iff, toNat_ofNat (Shift.isValidChar_image sound.1 moved)]
  rintro ⟨span, member, low, high⟩
  have apart := List.all_eq_true.mp inked span member
  simp only [Nat.blt_eq, Bool.or_eq_true] at apart
  omega

theorem isBlank_toLower {c : Char} (inked : isBlank c = false) : isBlank c.toLower = false := by
  by_cases upper : c.isUpper = true
  · have within := isUpper_iff.mp upper
    have apart : ∀ span ∈ blankSpans, span.2 < 97 ∨ 122 < span.1 := by decide
    rw [Char.toLower_eq_of_isUpper upper, ← Bool.not_eq_true, isBlank_iff,
      toNat_ofNat (by rw [Nat.isValidChar]; omega)]
    rintro ⟨span, member, low, high⟩
    have := apart span member
    omega
  · rwa [Char.toLower_eq_of_not_isUpper upper]

/-- The small form of a character that is no blank holds none. -/
theorem inked_of_mem_lowerChar {c d : Char} (inked : isBlank c = false)
    (member : d ∈ lowerChar c) : isBlank d = false := by
  rw [lowerChar] at member
  split at member
  next =>
    rw [List.mem_singleton.mp member]
    exact isBlank_toLower inked
  next =>
    rw [shifted] at member
    by_cases single : c.toNat = 304
    · have expanded : ([Char.ofNat 105, Char.ofNat 775].all fun d => !isBlank d) = true := by
        decide
      have found : d ∈ [Char.ofNat 105, Char.ofNat 775] := by
        simpa [single, lowerExpansions] using member
      simpa using List.all_eq_true.mp expanded d found
    · rw [lookup_lowerExpansions single] at member
      simp only at member
      split at member
      next image found =>
        obtain ⟨run, listed, moved⟩ := List.exists_of_findSome?_eq_some found
        rw [List.mem_singleton.mp member]
        exact isBlank_of_shifted listed moved
      next =>
        rw [List.mem_singleton.mp member]
        exact inked

theorem lowerChar_ne_nil (c : Char) : lowerChar c ≠ [] := by
  rw [lowerChar]
  split
  next => exact List.cons_ne_nil _ _
  next =>
    rw [shifted]
    by_cases single : c.toNat = 304
    · simp [single, lowerExpansions]
    · rw [lookup_lowerExpansions single]
      simp only
      split <;> exact List.cons_ne_nil _ _

theorem exists_inked_lowerChar {c : Char} (inked : isBlank c = false) :
    ∃ d ∈ lowerChar c, isBlank d = false := by
  obtain ⟨d, rest, found⟩ := List.exists_cons_of_ne_nil (lowerChar_ne_nil c)
  have member : d ∈ lowerChar c := found ▸ List.mem_cons_self
  exact ⟨d, member, inked_of_mem_lowerChar inked member⟩

theorem exists_inked_lower {text : Text} {c : Char} (member : c ∈ text)
    (inked : isBlank c = false) : ∃ d ∈ lower text, isBlank d = false := by
  suffices general : ∀ before, ∃ d ∈ lowerFrom before text, isBlank d = false from general []
  have sigmas : isBlank 'ς' = false ∧ isBlank 'σ' = false := by decide
  induction text with
  | nil => simp at member
  | cons first rest ih =>
      intro before
      rw [lowerFrom]
      rcases List.mem_cons.mp member with rfl | later
      · have here : ∃ d ∈ (if c = 'Σ' then
            if meetsCased before && !meetsCased rest then ['ς'] else ['σ']
          else lowerChar c), isBlank d = false := by
          split
          · split
            · exact ⟨_, List.mem_singleton_self _, sigmas.1⟩
            · exact ⟨_, List.mem_singleton_self _, sigmas.2⟩
          · exact exists_inked_lowerChar inked
        obtain ⟨d, found, dark⟩ := here
        exact ⟨d, List.mem_append_left _ found, dark⟩
      · obtain ⟨d, found, dark⟩ := ih later (first :: before)
        exact ⟨d, List.mem_append_right _ found, dark⟩

/-- Something is left of the small letters of a text that is not blank. -/
theorem strip_lower_ne_nil {text : Text} (spoken : strip text ≠ []) :
    strip (lower text) ≠ [] := by
  rw [ne_eq, strip_eq_nil_iff] at spoken ⊢
  simp only [not_forall, Bool.not_eq_true] at spoken ⊢
  obtain ⟨c, member, inked⟩ := spoken
  obtain ⟨d, found, dark⟩ := exists_inked_lower member inked
  exact ⟨d, found, dark⟩

/-- A phrase as questions are searched for it: it says something, in small letters and
without blanks at its ends. -/
structure IsPhrase (phrase : Text) : Prop where
  nonempty : phrase ≠ []
  stripped : strip phrase = phrase
  small : lower phrase = phrase

theorem isPhrase_strip_lower {text : Text} (spoken : strip (lower text) ≠ []) :
    IsPhrase (strip (lower text)) :=
  ⟨spoken, strip_strip _, lower_strip_lower text⟩

end Inquiry.Text
