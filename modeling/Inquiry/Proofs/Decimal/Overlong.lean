import Inquiry.Fault
import Inquiry.Value.Display
import Inquiry.Proofs.Decimal.Integer

/-!
# Numbers that are too long

No more than a fixed number of digits is read as a number, and no integer that needs more of them
is written.

Plain digits are read or they are too many: whoever has checked that a text is plain has only its
length left to fear.
-/

namespace Inquiry

/-- Plain digits, and more of them than are read. -/
def Decimal.IsOverlong (digits : Text) : Prop :=
  isPlain digits = true ∧ digitLimit < digits.length

/-- An integer of more digits than are written, or the text of more digits than are read. -/
def Value.IsOverlong : Value → Prop
  | .int number => Decimal.digitLimit < (Decimal.ofNat number.natAbs).length
  | .text content => Decimal.IsOverlong content
  | _ => False

/-- A number was too long to be read or to be written. -/
def Fault.IsOverlong : Fault → Prop
  | .integerTooLong digits => Decimal.digitLimit < digits
  | .unwritableInteger => True
  | _ => False

namespace Decimal

theorem readNat_of_isOverlong {digits : Text} (overlong : IsOverlong digits) :
    readNat digits = .error (.tooLong digits.length) := by
  obtain ⟨nonempty, all⟩ := isPlain_iff.mp overlong.1
  rw [readNat_of_digits nonempty all, if_neg (Nat.not_le.mpr overlong.2)]

theorem exists_readNat {digits : Text} (plain : isPlain digits = true)
    (readable : ¬IsOverlong digits) : ∃ number, readNat digits = .ok number := by
  have short : digits.length ≤ digitLimit := Nat.not_lt.mp fun long => readable ⟨plain, long⟩
  obtain ⟨nonempty, all⟩ := isPlain_iff.mp plain
  rw [readNat_of_digits nonempty all, if_pos short]
  exact ⟨_, rfl⟩

theorem not_isOverlong_of_short {digits : Text} (short : digits.length ≤ digitLimit) :
    ¬IsOverlong digits :=
  fun overlong => absurd overlong.2 (Nat.not_lt.mpr short)

theorem isOverlong_replicate {count : Nat} (many : digitLimit < count) :
    IsOverlong (List.replicate count '1') := by
  constructor
  · refine isPlain_iff.mpr ⟨?_, fun c member => ?_⟩
    · rw [ne_eq, List.replicate_eq_nil_iff]
      omega
    · rw [List.eq_of_mem_replicate member]
      rfl
  · rwa [List.length_replicate]

/-- A minus sign is no digit. -/
theorem isPlain_negSucc (n : Nat) : isPlain (ofInt (.negSucc n)) = false := by
  simp [ofInt, isPlain, Text.isAsciiDigit]

end Decimal

namespace Value

/-- The integers that are too long are those that are not written. -/
theorem isOverlong_int_iff {number : Int} :
    (int number).IsOverlong ↔ (int number).written? = none := by
  simp [IsOverlong, written?, literal?, Decimal.writeInt?]

/-- What is written for an integer is not too long to be read. -/
theorem not_isOverlong_of_written_int {number : Int} {text : Text}
    (written : (int number).written? = some text) : ¬Decimal.IsOverlong text := by
  simp only [written?, literal?, Decimal.writeInt?] at written
  split at written
  next short =>
    cases written
    cases number with
    | ofNat n => exact Decimal.not_isOverlong_of_short short
    | negSucc n =>
        intro overlong
        rw [Decimal.IsOverlong, Decimal.isPlain_negSucc] at overlong
        cases overlong.1
  next => cases written

end Value

end Inquiry
