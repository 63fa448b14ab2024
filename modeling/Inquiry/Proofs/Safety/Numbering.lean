import Inquiry.Proofs.Safety.Findings
import Inquiry.Proofs.Statement.Placeholders

/-!
# Numbered placeholders that pass

The gate reads the digits behind every dollar sign as a number and compares the numbers.  A
number has many spellings, since digits of every script are read and zeros in front of them do
not count.

So a statement that passes has the placeholders of all its parameters, each once and in order,
exactly if all its placeholders are spelled in the one way in which numbers are written.
-/

namespace Inquiry.Safety

/-! ## Placeholders with their positions -/

/-- The sign stands at a position of a text, and what follows it are these digits and no more. -/
def IsMarked (text digits : Text) (position : Nat) : Prop :=
  ∃ before after, text = before ++ '$' :: (digits ++ after) ∧ before.length = position ∧
    after.head?.any Text.isDecimal = false

/-- The digits of every numbered placeholder, each with the position of its sign. -/
def marksFrom (start : Nat) : Text → List (Nat × Text)
  | [] => []
  | c :: rest =>
      let digits := rest.takeWhile Text.isDecimal
      if c = '$' ∧ digits ≠ [] then (start, digits) :: marksFrom (start + 1) rest
      else marksFrom (start + 1) rest

theorem map_marksFrom (start : Nat) (text : Text) :
    (marksFrom start text).map Prod.snd = numberedMarks text := by
  induction text generalizing start with
  | nil => rfl
  | cons c rest ih =>
      simp only [marksFrom, numberedMarks, List.isEmpty_iff]
      by_cases sign : c = '$' <;> by_cases empty : rest.takeWhile Text.isDecimal = [] <;>
        simp [sign, empty, ih]

theorem le_of_mem_marksFrom {start : Nat} {text : Text} {mark : Nat × Text}
    (member : mark ∈ marksFrom start text) : start ≤ mark.1 := by
  induction text generalizing start with
  | nil => cases member
  | cons c rest ih =>
      rw [marksFrom] at member
      split at member
      · rcases List.mem_cons.mp member with rfl | later
        · exact Nat.le_refl _
        · exact Nat.le_of_succ_le (ih later)
      · exact Nat.le_of_succ_le (ih member)

theorem pairwise_marksFrom (start : Nat) (text : Text) :
    (marksFrom start text).Pairwise fun mark other => mark.1 < other.1 := by
  induction text generalizing start with
  | nil => exact List.Pairwise.nil
  | cons c rest ih =>
      rw [marksFrom]
      split
      · exact List.pairwise_cons.mpr ⟨fun _ member => le_of_mem_marksFrom member, ih _⟩
      · exact ih _

theorem isMarked_zero {c : Char} {rest digits : Text}
    (inside : ∀ c ∈ digits, Text.isDecimal c = true) :
    IsMarked (c :: rest) digits 0 ↔ c = '$' ∧ rest.takeWhile Text.isDecimal = digits := by
  constructor
  · rintro ⟨before, after, whole, opens, ends⟩
    rw [List.eq_nil_of_length_eq_zero opens, List.nil_append] at whole
    obtain ⟨rfl, rfl⟩ := List.cons.inj whole
    exact ⟨rfl, (Text.span_append inside ends).1⟩
  · rintro ⟨rfl, rfl⟩
    refine ⟨[], rest.dropWhile Text.isDecimal, ?_, rfl, Text.head?_dropWhile rest⟩
    rw [List.takeWhile_append_dropWhile, List.nil_append]

theorem isMarked_succ {c : Char} {rest digits : Text} {offset : Nat} :
    IsMarked (c :: rest) digits (offset + 1) ↔ IsMarked rest digits offset := by
  constructor
  · rintro ⟨before, after, whole, place, ends⟩
    obtain ⟨first, before, rfl⟩ := List.exists_cons_of_length_eq_add_one place
    obtain ⟨-, rfl⟩ := List.cons.inj whole
    exact ⟨before, after, rfl, Nat.succ.inj place, ends⟩
  · rintro ⟨before, after, rfl, rfl, ends⟩
    exact ⟨c :: before, after, rfl, rfl, ends⟩

/-- What is listed are the places of the placeholders. -/
theorem mem_marksFrom {start offset : Nat} {text digits : Text} (nonempty : digits ≠ [])
    (inside : ∀ c ∈ digits, Text.isDecimal c = true) :
    (start + offset, digits) ∈ marksFrom start text ↔ IsMarked text digits offset := by
  induction text generalizing start offset with
  | nil =>
      constructor
      · intro member
        cases member
      · rintro ⟨before, after, whole, -⟩
        simp at whole
  | cons c rest ih =>
      cases offset with
      | zero =>
          have behind : (start, digits) ∉ marksFrom (start + 1) rest := fun member =>
            absurd (le_of_mem_marksFrom member) (Nat.not_succ_le_self start)
          rw [isMarked_zero inside, Nat.add_zero, marksFrom]
          split
          next opens =>
            rw [List.mem_cons, Prod.mk.injEq]
            constructor
            · rintro (⟨-, rfl⟩ | member)
              · exact ⟨opens.1, rfl⟩
              · exact absurd member behind
            · rintro ⟨-, rfl⟩
              exact .inl ⟨rfl, rfl⟩
          next other =>
            constructor
            · exact fun member => absurd member behind
            · rintro ⟨sign, rfl⟩
              exact absurd ⟨sign, nonempty⟩ other
      | succ offset =>
          have moved : start + (offset + 1) = start + 1 + offset := by omega
          have behind : (start + 1 + offset, digits) ∈ marksFrom (start + 1) rest ↔
              IsMarked rest digits offset := ih
          rw [isMarked_succ, ← behind, moved, marksFrom]
          split
          · rw [List.mem_cons]
            constructor
            · rintro (same | member)
              · have := congrArg Prod.fst same
                dsimp only at this
                omega
              · exact member
            · exact .inr
          · rfl

/-! ## Numbering -/

/-- The placeholder of a number stands at a position of a text. -/
def IsPlaced (text : Text) (number position : Nat) : Prop :=
  IsMarked text (Decimal.ofNat number) position

/-- The placeholder of every number up to a count stands in one place of a text, and those of
larger numbers stand behind those of smaller ones. -/
structure Numbered (text : Text) (count : Nat) : Prop where
  once : ∀ number, 1 ≤ number → number ≤ count → ∃! position, IsPlaced text number position
  ordered : ∀ {number other position otherPosition}, 1 ≤ number → number < other →
    other ≤ count → IsPlaced text number position → IsPlaced text other otherPosition →
      position < otherPosition

/-- Digits as numbers are written: those of ASCII, and no zero in front. -/
def IsCanonical (digits : Text) : Prop :=
  Decimal.isPlain digits = true ∧ digits.head? ≠ some '0'

variable {text : Text} {count : Nat}

theorem isPlaced_iff {number position : Nat} :
    IsPlaced text number position ↔ (position, Decimal.ofNat number) ∈ marksFrom 0 text := by
  have inside : ∀ c ∈ Decimal.ofNat number, Text.isDecimal c = true :=
    fun c member => Decimal.isDecimal_of_isDigit (Decimal.isDigit_of_mem_ofNat member)
  have listed : (0 + position, Decimal.ofNat number) ∈ marksFrom 0 text ↔
      IsMarked text (Decimal.ofNat number) position :=
    mem_marksFrom (Decimal.ofNat_ne_nil number) inside
  rw [IsPlaced, ← listed, Nat.zero_add]

/-- Among placeholders that count up, that of a number is at the place of the number. -/
theorem isPlaced_iff_getElem? (marks : numberedMarks text = (List.range' 1 count).map Decimal.ofNat)
    {number position : Nat} (positive : 1 ≤ number) : IsPlaced text number position ↔
      (marksFrom 0 text)[number - 1]? = some (position, Decimal.ofNat number) := by
  rw [isPlaced_iff]
  constructor
  · intro member
    obtain ⟨index, found⟩ := List.mem_iff_getElem?.mp member
    have digits : ((marksFrom 0 text).map Prod.snd)[index]? = some (Decimal.ofNat number) := by
      rw [List.getElem?_map, found, Option.map_some]
    rw [map_marksFrom, marks, List.getElem?_map] at digits
    obtain ⟨other, counted, same⟩ := Option.map_eq_some_iff.mp digits
    obtain ⟨_, rfl⟩ := List.getElem?_eq_some_iff.mp counted
    rw [List.getElem_range'] at same
    have place : number - 1 = index := by
      have := Decimal.ofNat_injective same
      omega
    rwa [place]
  · exact List.mem_of_getElem?

theorem numbered_of_marks
    (marks : numberedMarks text = (List.range' 1 count).map Decimal.ofNat) :
    Numbered text count := by
  constructor
  case once =>
    intro number positive small
    have digits : ((marksFrom 0 text).map Prod.snd)[number - 1]? =
        some (Decimal.ofNat number) := by
      have counted : (List.range' 1 count)[number - 1]? = some number := by
        rw [List.getElem?_range' (by omega)]
        congr 1
        omega
      rw [map_marksFrom, marks, List.getElem?_map, counted, Option.map_some]
    rw [List.getElem?_map] at digits
    obtain ⟨⟨position, _⟩, found, rfl⟩ := Option.map_eq_some_iff.mp digits
    refine ⟨position, (isPlaced_iff_getElem? marks positive).mpr found, ?_⟩
    intro other placed
    have foundOther := (isPlaced_iff_getElem? marks positive).mp placed
    rw [found] at foundOther
    cases foundOther
    rfl
  case ordered =>
    intro number other position otherPosition positive less _ placed otherPlaced
    have found := (isPlaced_iff_getElem? marks positive).mp placed
    have foundOther := (isPlaced_iff_getElem? marks (by omega)).mp otherPlaced
    obtain ⟨_, here⟩ := List.getElem?_eq_some_iff.mp found
    obtain ⟨_, there⟩ := List.getElem?_eq_some_iff.mp foundOther
    have ordered := List.pairwise_iff_getElem.mp (pairwise_marksFrom 0 text) (number - 1)
      (other - 1) ‹_› ‹_› (by omega)
    rwa [here, there] at ordered

/-- As many placeholders as numbers leave no room for any but those of the numbers. -/
theorem Numbered.exists_ofNat (numbered : Numbered text count)
    (agree : (numberedMarks text).length = count) {digits : Text}
    (member : digits ∈ numberedMarks text) :
    ∃ number, 1 ≤ number ∧ digits = Decimal.ofNat number := by
  have nodup : ((List.range' 1 count).map Decimal.ofNat).Nodup :=
    (List.nodup_range' 1 (by decide)).map Decimal.ofNat_injective
  have listed : (List.range' 1 count).map Decimal.ofNat ⊆ numberedMarks text := by
    intro digits found
    obtain ⟨number, counted, rfl⟩ := List.mem_map.mp found
    have bounds := List.mem_range'_1.mp counted
    obtain ⟨position, placed, -⟩ := numbered.once number (by omega) (by omega)
    rw [← map_marksFrom 0]
    exact List.mem_map.mpr ⟨_, isPlaced_iff.mp placed, rfl⟩
  -- All these numbers differ, so nothing else can be listed in as many places.
  have same : ((List.range' 1 count).map Decimal.ofNat).Perm (numberedMarks text) := by
    apply (nodup.subperm listed).perm_of_length_le
    rw [agree, List.length_map, List.length_range']
  obtain ⟨number, counted, rfl⟩ := List.mem_map.mp (same.mem_iff.mpr member)
  exact ⟨number, (List.mem_range'_1.mp counted).1, rfl⟩

/-- Placeholders whose numbers count up are numbered exactly if they are spelled as numbers are
written. -/
theorem numbered_iff (numbers : placeholderNumbers text = .ok (List.range' 1 count)) :
    Numbered text count ↔ ∀ digits ∈ numberedMarks text, IsCanonical digits := by
  constructor
  · intro numbered digits member
    have agree : (numberedMarks text).length = count := by
      rw [← Outcome.length_of_mapM numbers, List.length_range']
    obtain ⟨number, positive, rfl⟩ := numbered.exists_ofNat agree member
    exact ⟨Decimal.isPlain_ofNat number, Decimal.head?_ofNat_ne positive⟩
  · intro canonical
    apply numbered_of_marks
    have spelled : ∀ digits ∈ numberedMarks text, ∀ number,
        (Decimal.readNat digits).mapError (Fault.ofIntegerError digits) = .ok number →
          Decimal.ofNat number = id digits := by
      intro digits member number read
      obtain ⟨plain, leading⟩ := canonical digits member
      obtain ⟨other, -, rfl⟩ := Decimal.exists_ofNat_of_isPlain plain leading
      rw [Outcome.mapError_eq_ok, Decimal.readNat_ofNat] at read
      split at read
      · cases read
        rfl
      · cases read
    rw [Outcome.map_eq_of_mapM spelled numbers, List.map_id]

/-! ## What passes -/

theorem numberedMarks_blanks {leading trailing : Text}
    (blanksBefore : ∀ c ∈ leading, Text.isBlank c = true)
    (blanksAfter : ∀ c ∈ trailing, Text.isBlank c = true) (text : Text) :
    numberedMarks (leading ++ (text ++ trailing)) = numberedMarks text := by
  have sign : ∀ {c : Char}, Text.isBlank c = true → c ≠ '$' := by
    rintro c blank rfl
    exact absurd blank (by decide)
  induction leading with
  | nil =>
      cases trailing with
      | nil => rw [List.append_nil, List.nil_append]
      | cons c others =>
          rw [List.forall_mem_cons] at blanksAfter
          have absent : '$' ∉ others := fun member => sign (blanksAfter.2 _ member) rfl
          rw [List.nil_append, numberedMarks_append_cons (isDecimal_of_isBlank blanksAfter.1)
            (sign blanksAfter.1), numberedMarks_of_not_mem absent, List.append_nil]
  | cons c others ih =>
      rw [List.forall_mem_cons] at blanksBefore
      rw [List.cons_append, numberedMarks, if_neg (sign blanksBefore.1), ih blanksBefore.2]

theorem numberedMarks_strip (text : Text) :
    numberedMarks (Text.strip text) = numberedMarks text := by
  obtain ⟨leading, trailing, parted, blanksBefore, blanksAfter⟩ := Text.exists_eq_strip text
  rw [List.append_assoc] at parted
  conv => rhs; rw [parted]
  exact (numberedMarks_blanks blanksBefore blanksAfter _).symm

/-- The numbers of the placeholders of a text that passed count up to the number of its
parameters. -/
theorem Passed.numbers_agree {vocabulary : Vocabulary} {parameters : List Value}
    (passed : Passed vocabulary (some .dollar) text parameters) :
    placeholderNumbers text = .ok (List.range' 1 parameters.length) := by
  have agree := passed.placeholders_agree
  have judged := passed.placeholders
  rw [placeholderViolations, if_neg (not_not.mpr agree), if_pos rfl] at judged
  obtain ⟨numbers, read, judged⟩ := Outcome.bind_eq_ok.mp judged
  have counted : numbers = List.range' 1 numbers.length := by
    by_contra differ
    rw [if_neg differ] at judged
    cases judged
  have same : numbers.length = parameters.length := (Outcome.length_of_mapM read).trans agree
  rw [read, ← same, ← counted]

end Inquiry.Safety
