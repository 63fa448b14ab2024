import Inquiry.Proofs.Safety.Numbering
import Inquiry.Proofs.Text.Case
import Inquiry.Proofs.Vocabulary.WellFormed

/-!
# Selections that pass

The gate turns the whole text into capitals and looks whether the keyword of selections opens
it.  Two characters beyond ASCII have capital forms that begin with a letter of the keyword, and
nothing has to end behind it.

So the first word of a statement that passes is the keyword exactly if the characters that were
taken for it are ASCII letters and no word goes on behind them.
-/

namespace Inquiry

namespace Safety

open Text (upperChar upperShifts upperExpansions)

/-! ## Capital forms -/

/-- The letters of the keyword that stand next to each other. -/
def neighbours : List (Char × Char) :=
  selectKeyword.zip selectKeyword.tail

/-- Only two runs of the table lead to letters of ASCII. -/
theorem upperShifts_beyond : (upperShifts.all fun run => run.isSound && (Nat.ble 128 run.start ||
    (run.first.beq run.last && ((run.first.beq 383 && run.start.beq 83) ||
      (run.first.beq 305 && run.start.beq 73))))) = true := by
  decide +kernel

/-- No character becomes two neighbours, and only one becomes the last letter with a mark on
it. -/
theorem upperExpansions_apart : (upperExpansions.all fun entry =>
    match entry.2.map Char.ofNat with
    | first :: second :: _ =>
        !neighbours.contains (first, second) && (first != 'T' || entry.1 == 7831)
    | _ => false) = true := by
  decide +kernel

/-- What the capital form of a character can be. -/
inductive Raised (c : Char) : Text → Prop where
  | ascii : Raised c [c.toUpper]
  | longS (same : c = '\u017f') : Raised c ['S']
  | dotless (same : c = '\u0131') : Raised c ['I']
  | beyond (image : Char) (above : 128 ≤ image.toNat) : Raised c [image]
  | several (first second : Char) (others : Text) (apart : (first, second) ∉ neighbours)
      (marked : first = 'T' → c = '\u1e97') : Raised c (first :: second :: others)

theorem raised_upperChar (c : Char) : Raised c (upperChar c) := by
  rw [upperChar]
  split
  next => exact .ascii
  next above =>
    rw [Text.shifted]
    split
    next points found =>
      obtain ⟨front, back, listed, -⟩ := List.lookup_eq_some_iff.mp found
      have entry := List.all_eq_true.mp upperExpansions_apart (c.toNat, points) (by simp [listed])
      dsimp only at entry
      split at entry
      next first second others several =>
        rw [several]
        simp only [Bool.and_eq_true, Bool.not_eq_true', Bool.or_eq_true, bne_iff_ne, ne_eq,
          beq_iff_eq] at entry
        refine .several first second others (by simpa using entry.1) fun same => ?_
        have point := entry.2.resolve_left (not_not.mpr same)
        rw [← Char.ofNat_toNat c, point]
      next => cases entry
    next =>
      split
      next image found =>
        obtain ⟨run, listed, moved⟩ := List.exists_of_findSome?_eq_some found
        have facts := List.all_eq_true.mp upperShifts_beyond run listed
        simp only [Bool.and_eq_true, Bool.or_eq_true, Nat.ble_eq, Nat.beq_eq] at facts
        obtain ⟨sound, beyond | ⟨single, ⟨first, start⟩ | ⟨first, start⟩⟩⟩ := facts
        · have above := (Text.Shift.shifted?_eq_some (by omega) moved).1
          have valid := Text.Shift.isValidChar_image sound moved
          exact .beyond _ (by rw [Text.toNat_ofNat valid]; omega)
        · rw [(Text.Shift.shifted?_eq_some (by omega) moved).2.2.1 single, start]
          have here := Text.Shift.between_of_shifted? moved
          exact .longS (by rw [← Char.ofNat_toNat c, show c.toNat = 383 by omega])
        · rw [(Text.Shift.shifted?_eq_some (by omega) moved).2.2.1 single, start]
          have here := Text.Shift.between_of_shifted? moved
          exact .dotless (by rw [← Char.ofNat_toNat c, show c.toNat = 305 by omega])
      next => exact .beyond c (by omega)

/-! ## The opening of a selection -/

/-- The capital form of the character begins with a letter of the keyword: it is the letter in
either case, or one of two characters beyond ASCII. -/
def isOpening (letter c : Char) : Bool :=
  c.toUpper == letter || (letter == 'S' && c == '\u017f') || (letter == 'T' && c == '\u1e97')

theorem isUpper_selectKeyword : ∀ letter ∈ selectKeyword, letter.isUpper = true :=
  List.all_eq_true.mp (by decide)

theorem ascii_of_isUpper {letter : Char} (capital : letter.isUpper = true) :
    letter.toNat < 128 := by
  have bounds := Text.isUpper_iff.mp capital
  omega

theorem ascii_of_toUpper {letter c : Char} (known : letter ∈ selectKeyword)
    (same : c.toUpper = letter) : c.toNat < 128 := by
  apply Text.ascii_of_isAlphanum
  rw [Char.isAlphanum, isAlpha_of_toUpper (same ▸ isUpper_selectKeyword letter known),
    Bool.true_or]

/-- What is left of the keyword at one of its letters. -/
structure IsTail (keyword : Text) : Prop where
  known : ∀ letter ∈ keyword, letter ∈ selectKeyword
  chain : keyword.IsChain fun letter next => (letter, next) ∈ neighbours
  ends : keyword.getLast?.all (· == 'T') = true

theorem isTail_selectKeyword : IsTail selectKeyword :=
  ⟨fun _ member => member, by decide, by decide⟩

theorem IsTail.tail {letter : Char} {more : Text} (isTail : IsTail (letter :: more)) :
    IsTail more where
  known := fun other member => isTail.known other (List.mem_cons_of_mem _ member)
  chain := isTail.chain.tail
  ends := by
    cases more with
    | nil => rfl
    | cons next more => simpa using isTail.ends

/-- The characters are taken for the letters of a keyword, one by one. -/
def Opening (keyword opening : Text) : Prop :=
  List.Forall₂ (fun letter c => isOpening letter c = true) keyword opening

theorem exists_of_prefix_upper {keyword text : Text} (isTail : IsTail keyword)
    (raised : keyword <+: Text.upper text) :
    ∃ opening rest, text = opening ++ rest ∧ Opening keyword opening := by
  induction keyword generalizing text with
  | nil => exact ⟨[], text, rfl, .nil⟩
  | cons letter more ih =>
      have known := isTail.known letter List.mem_cons_self
      cases text with
      | nil => exact absurd (List.prefix_nil.mp raised) (List.cons_ne_nil _ _)
      | cons c text =>
          -- The first letter comes from this character, and the others from those behind it.
          have behind : isOpening letter c = true → more <+: Text.upper text →
              ∃ opening rest, c :: text = opening ++ rest ∧
                Opening (letter :: more) opening := by
            intro opens continued
            obtain ⟨opening, rest, rfl, others⟩ := ih isTail.tail continued
            exact ⟨c :: opening, rest, rfl, .cons opens others⟩
          have form := raised_upperChar c
          rw [Text.upper, List.flatMap_cons] at raised
          generalize upperChar c = capitals at form raised
          cases form with
          | ascii =>
              obtain ⟨rfl, continued⟩ := List.cons_prefix_cons.mp raised
              exact behind (by simp [isOpening]) continued
          | longS same =>
              obtain ⟨rfl, continued⟩ := List.cons_prefix_cons.mp raised
              exact behind (by simp [isOpening, same]) continued
          | dotless same =>
              obtain ⟨rfl, -⟩ := List.cons_prefix_cons.mp raised
              exact absurd known (by decide)
          | beyond image above =>
              obtain ⟨rfl, -⟩ := List.cons_prefix_cons.mp raised
              have ascii := ascii_of_isUpper (isUpper_selectKeyword letter known)
              exact absurd ascii (Nat.not_lt.mpr above)
          | several first second others apart marked =>
              obtain ⟨rfl, continued⟩ := List.cons_prefix_cons.mp raised
              cases more with
              | nil =>
                  have last : letter = 'T' := by simpa using isTail.ends
                  exact ⟨[c], text, rfl, .cons (by simp [isOpening, last, marked last]) .nil⟩
              | cons next more =>
                  obtain ⟨rfl, -⟩ := List.cons_prefix_cons.mp continued
                  exact absurd (List.isChain_cons_cons.mp isTail.chain).1 apart

theorem prefix_upper_of_opening {keyword opening : Text} (isTail : IsTail keyword)
    (opens : Opening keyword opening) (rest : Text) :
    keyword <+: Text.upper (opening ++ rest) := by
  induction opens with
  | nil => exact List.nil_prefix
  | @cons letter c more opening same opens ih =>
      have continued := ih isTail.tail
      rw [List.cons_append, Text.upper, List.flatMap_cons]
      simp only [isOpening, Bool.or_eq_true, Bool.and_eq_true, beq_iff_eq] at same
      rcases same with (upper | ⟨rfl, rfl⟩) | ⟨rfl, rfl⟩
      · have ascii := ascii_of_toUpper (isTail.known letter List.mem_cons_self) upper
        rw [upperChar, if_pos ascii, upper]
        exact List.cons_prefix_cons.mpr ⟨rfl, continued⟩
      · have capital : upperChar '\u017f' = ['S'] := by decide +kernel
        rw [capital]
        exact List.cons_prefix_cons.mpr ⟨rfl, continued⟩
      · have capitals : upperChar '\u1e97' = ['T', '\u0308'] := by decide +kernel
        cases more with
        | nil =>
            rw [capitals]
            exact List.cons_prefix_cons.mpr ⟨rfl, List.nil_prefix⟩
        | cons next more =>
            have apart : ∀ pair ∈ neighbours, pair.1 ≠ 'T' := by decide
            exact absurd rfl (apart _ (List.isChain_cons_cons.mp isTail.chain).1)

/-- The gate takes a text for a selection exactly if its first characters are taken for the
letters of the keyword. -/
theorem isSelect_iff {text : Text} : isSelect text = true ↔
    ∃ opening rest, text = opening ++ rest ∧ Opening selectKeyword opening := by
  rw [isSelect, List.isPrefixOf_iff_prefix]
  constructor
  · exact exists_of_prefix_upper isTail_selectKeyword
  · rintro ⟨opening, rest, rfl, opens⟩
    exact prefix_upper_of_opening isTail_selectKeyword opens rest

/-! ## The first word -/

/-- The first word of a statement is the keyword of selections in ASCII letters of either
case. -/
def Selects (sql : Text) : Prop :=
  ∃ word, (Text.runs Text.isWord (Text.strip sql)).head? = some word ∧
    word.map Char.toUpper = selectKeyword

theorem isWord_of_isOpening {letter c : Char} (known : letter ∈ selectKeyword)
    (opens : isOpening letter c = true) : Text.isWord c = true := by
  simp only [isOpening, Bool.or_eq_true, Bool.and_eq_true, beq_iff_eq] at opens
  rcases opens with (upper | ⟨-, rfl⟩) | ⟨-, rfl⟩
  · exact isWord_of_isAlpha (isAlpha_of_toUpper (upper ▸ isUpper_selectKeyword letter known))
  · decide +kernel
  · decide +kernel

theorem Opening.isWord {keyword opening : Text} (opens : Opening keyword opening)
    (known : ∀ letter ∈ keyword, letter ∈ selectKeyword) :
    ∀ c ∈ opening, Text.isWord c = true := by
  induction opens with
  | nil => simp
  | cons same opens ih =>
      rw [List.forall_mem_cons] at known ⊢
      exact ⟨isWord_of_isOpening known.1 same, ih known.2⟩

/-- In ASCII letters the keyword is what its letters are in capitals. -/
theorem Opening.map_toUpper_eq {keyword opening : Text} (opens : Opening keyword opening)
    (ascii : ∀ c ∈ opening, c.toNat < 128) : opening.map Char.toUpper = keyword := by
  induction opens with
  | nil => rfl
  | @cons letter c keyword opening same opens ih =>
      rw [List.forall_mem_cons] at ascii
      have upper : c.toUpper = letter := by
        simp only [isOpening, Bool.or_eq_true, Bool.and_eq_true, beq_iff_eq] at same
        rcases same with (upper | ⟨-, rfl⟩) | ⟨-, rfl⟩
        · exact upper
        · exact absurd ascii.1 (by decide)
        · exact absurd ascii.1 (by decide)
      rw [List.map_cons, upper, ih ascii.2]

theorem selects_iff {sql opening rest : Text} (parted : Text.strip sql = opening ++ rest)
    (opens : Opening selectKeyword opening) :
    Selects sql ↔ (∀ c ∈ opening, c.toNat < 128) ∧ endsWord rest = true := by
  have inside := opens.isWord fun _ member => member
  have length := opens.length_eq
  have first : (Text.runs Text.isWord (Text.strip sql)).head? =
      some (opening ++ rest.takeWhile Text.isWord) := by
    rw [parted, Text.head?_runs, List.takeWhile_append_of_pos inside]
    cases opens with
    | cons same opens => simpa using inside _ List.mem_cons_self
  rw [Selects, first]
  constructor
  · rintro ⟨word, same, upper⟩
    obtain rfl := Option.some.inj same
    have lengths := congrArg List.length upper
    rw [List.length_map, List.length_append] at lengths
    have empty : rest.takeWhile Text.isWord = [] :=
      List.eq_nil_of_length_eq_zero (by omega)
    rw [empty, List.append_nil] at upper
    constructor
    · intro c member
      exact ascii_of_toUpper (upper ▸ List.mem_map_of_mem member) rfl
    · cases rest with
      | nil => rfl
      | cons c rest => simpa [endsWord] using empty
  · rintro ⟨ascii, ends⟩
    refine ⟨_, rfl, ?_⟩
    have empty : rest.takeWhile Text.isWord = [] := by
      cases rest with
      | nil => rfl
      | cons c rest => simpa [endsWord] using ends
    rw [empty, List.append_nil, opens.map_toUpper_eq ascii]

/-! ## What passes -/

/-- A statement with numbered placeholders that passes the gate opens with what is taken for the
keyword of selections.  Its first word is the keyword exactly if that is written in ASCII and
ends there, and it has the placeholders of its parameters exactly if their numbers are written
as numbers are. -/
theorem selects_numbered_iff {vocabulary : Vocabulary} {sql : Text} {parameters : List Value}
    (passed : check vocabulary (some .dollar) sql parameters = .ok []) :
    (∃ opening rest, Text.strip sql = opening ++ rest ∧ Opening selectKeyword opening ∧
      (Selects sql ↔ (∀ c ∈ opening, c.toNat < 128) ∧ endsWord rest = true)) ∧
    (Numbered sql parameters.length ↔ ∀ digits ∈ numberedMarks sql, IsCanonical digits) := by
  have silent := passed_of_check passed
  constructor
  · obtain ⟨opening, rest, parted, opens⟩ := isSelect_iff.mp silent.selects
    exact ⟨opening, rest, parted, opens, selects_iff parted opens⟩
  · have numbers := silent.numbers_agree
    rw [placeholderNumbers, numberedMarks_strip] at numbers
    exact numbered_iff numbers

/-- A statement with one placeholder. -/
def samplePlaceholder : Text := "select s.title\nFROM sites AS s\nWHERE s.code = $1"

theorem selects_numbered_samplePlaceholder :
    check Vocabulary.sampleVocabulary (some .dollar) samplePlaceholder [.text "hr"] = .ok [] ∧
      Selects samplePlaceholder ∧ Numbered samplePlaceholder 1 := by
  have passed : check Vocabulary.sampleVocabulary (some .dollar) samplePlaceholder
      [.text "hr"] = .ok [] := by
    with_unfolding_all rfl
  obtain ⟨⟨opening, rest, parted, opens, selects⟩, numbered⟩ := selects_numbered_iff passed
  have stripped : Text.strip samplePlaceholder =
      "select".toList ++ " s.title\nFROM sites AS s\nWHERE s.code = $1".toList := by
    decide
  have length : opening.length = "select".toList.length := by
    rw [← opens.length_eq]
    decide
  obtain ⟨rfl, rfl⟩ := List.append_inj (parted.symm.trans stripped) length
  have ends : endsWord " s.title\nFROM sites AS s\nWHERE s.code = $1" = true := by decide
  refine ⟨passed, selects.mpr ⟨by simp, ends⟩, numbered.mpr ?_⟩
  have marks : numberedMarks samplePlaceholder = ["1".toList] := by decide
  rw [marks, List.forall_mem_singleton]
  exact ⟨by decide, by decide⟩

/-- A word that goes on behind the keyword. -/
def longerWord : Text := "SELECTED s.title\nFROM sites AS s"

/-- A placeholder with a digit that is none of ASCII. -/
def foreignDigit : Text := "SELECT s.title\nFROM sites AS s\nWHERE s.code = $\u0661"

/-- A longer word passes for the keyword, and a digit of another script for a number. -/
theorem longerWord_foreignDigit_pass :
    Vocabulary.read Vocabulary.sampleSource = .ok Vocabulary.sampleVocabulary ∧
      (check Vocabulary.sampleVocabulary (some .dollar) longerWord [] = .ok [] ∧
        ¬Selects longerWord) ∧
      (check Vocabulary.sampleVocabulary (some .dollar) foreignDigit [.text "hr"] = .ok [] ∧
        ¬Numbered foreignDigit 1) := by
  refine ⟨Vocabulary.read_sampleSource, ⟨?_, ?_⟩, ?_, ?_⟩
  · with_unfolding_all rfl
  · have stripped : Text.strip longerWord =
        "SELECT".toList ++ "ED s.title\nFROM sites AS s".toList := by
      decide
    have opens : Opening selectKeyword "SELECT".toList := by
      rw [Opening]
      decide
    rw [selects_iff stripped opens]
    rintro ⟨-, ends⟩
    exact absurd ends (by decide)
  · with_unfolding_all rfl
  · intro numbered
    obtain ⟨position, placed, -⟩ := numbered.once 1 (Nat.le_refl 1) (Nat.le_refl 1)
    have marks : (marksFrom 0 foreignDigit).map Prod.snd = ["\u0661".toList] := by
      rw [map_marksFrom]
      decide
    have listed := List.mem_map_of_mem (f := Prod.snd) (isPlaced_iff.mp placed)
    rw [marks, List.mem_singleton] at listed
    have other : Decimal.ofNat 1 ≠ "\u0661".toList := by decide
    exact other listed

end Safety

end Inquiry
