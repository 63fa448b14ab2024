import Inquiry.Decimal.Integer
import Mathlib

/-!
# Reading written numbers

The decimal form of a natural number consists of ASCII digits alone, and it is
read as the number again unless it has more digits than are read.  No other ASCII
digits without zeros in front are read as the number.
-/

namespace Inquiry.Decimal

theorem ofNat_ne_nil (n : Nat) : ofNat n ≠ [] :=
  Nat.toDigits_ne_nil

theorem isDigit_of_mem_ofNat {n : Nat} {c : Char} (member : c ∈ ofNat n) :
    c.isDigit = true :=
  Nat.isDigit_of_mem_toDigits (by decide) (by decide) member

theorem length_ofNat_le_iff {n : Nat} :
    (ofNat n).length ≤ digitLimit ↔ n < 10 ^ digitLimit :=
  Nat.length_toDigits_le_iff (by decide) (by decide)

theorem isPlain_iff {text : Text} :
    isPlain text = true ↔ text ≠ [] ∧ ∀ c ∈ text, Text.isAsciiDigit c = true := by
  simp [isPlain]

theorem isPlain_ofNat (n : Nat) : isPlain (ofNat n) = true :=
  isPlain_iff.mpr ⟨ofNat_ne_nil n, fun _ member => isDigit_of_mem_ofNat member⟩

/-! ## ASCII digits -/

theorem bounds_of_isDigit {c : Char} (digit : c.isDigit = true) :
    48 ≤ c.toNat ∧ c.toNat ≤ 57 := by
  simpa [Char.isDigit, UInt32.le_iff_toNat_le] using digit

theorem digitValue_of_isDigit {c : Char} (digit : c.isDigit = true) :
    Text.digitValue? c = some (c.toNat - 48) := by
  have ascii : c.toNat < 128 := by
    have bounds := bounds_of_isDigit digit
    omega
  simp [Text.digitValue?, ascii, digit]

theorem isDecimal_of_isDigit {c : Char} (digit : c.isDigit = true) :
    Text.isDecimal c = true := by
  simp [Text.isDecimal, digitValue_of_isDigit digit]

theorem values_of_digits {digits : Text} (all : ∀ c ∈ digits, c.isDigit = true) :
    digits.filterMap Text.digitValue? = digits.map fun c => c.toNat - 48 := by
  rw [List.filterMap_eq_map_iff_forall_eq_some]
  intro c member
  exact digitValue_of_isDigit (all c member)

/-! ## Digits of every script -/

/-- Digits alone need no underscores. -/
theorem wellSpaced_of_decimals {digits : Text} (flag : Bool) (nonempty : digits ≠ [])
    (all : ∀ c ∈ digits, Text.isDecimal c = true) : wellSpaced flag digits = true := by
  induction digits generalizing flag with
  | nil => exact absurd rfl nonempty
  | cons c rest ih =>
      have decimal := all c (by simp)
      have plain : c ≠ '_' := by
        rintro rfl
        exact absurd decimal (by decide)
      rw [wellSpaced, if_neg plain]
      cases rest with
      | nil => rfl
      | cons d others =>
          exact ih true (by simp) (fun e member => all e (by simp [member]))

/-- Digits are read as the number that they spell unless they are too many. -/
theorem readNat_of_decimals {digits : Text} (nonempty : digits ≠ [])
    (all : ∀ c ∈ digits, Text.isDecimal c = true) :
    readNat digits =
      if digits.length ≤ digitLimit then .ok (spelled (digits.filterMap Text.digitValue?))
      else .error (.tooLong digits.length) := by
  have inRun : ∀ c ∈ digits, (Text.isDecimal c || c == '_') = true := by
    intro c member
    simp [all c member]
  have run : digits.takeWhile (fun c => Text.isDecimal c || c == '_') = digits :=
    List.takeWhile_eq_self_iff.mpr inRun
  have rest : digits.dropWhile (fun c => Text.isDecimal c || c == '_') = [] :=
    List.dropWhile_eq_nil_iff.mpr inRun
  have spaced : wellSpaced false digits = true := wellSpaced_of_decimals false nonempty all
  have counted : (digits.filterMap Text.digitValue?).length = digits.length :=
    List.filterMap_length_eq_length.mpr all
  simp only [readNat, run, rest, spaced, counted, List.all_nil, Bool.not_true,
    Bool.false_eq_true, if_false, if_true]
  by_cases short : digits.length ≤ digitLimit
  · rw [if_pos short, if_neg (Nat.not_lt.mpr short)]
  · rw [if_neg short, if_pos (Nat.lt_of_not_le short)]

/-- ASCII digits are read as the number that they spell unless they are too many. -/
theorem readNat_of_digits {digits : Text} (nonempty : digits ≠ [])
    (all : ∀ c ∈ digits, c.isDigit = true) :
    readNat digits =
      if digits.length ≤ digitLimit then .ok (spelled (digits.map fun c => c.toNat - 48))
      else .error (.tooLong digits.length) := by
  rw [readNat_of_decimals nonempty fun c member => isDecimal_of_isDigit (all c member),
    values_of_digits all]

/-- A number is read back unless it has more than `digitLimit` digits. -/
theorem readNat_ofNat (n : Nat) :
    readNat (ofNat n) =
      if n < 10 ^ digitLimit then .ok n else .error (.tooLong (ofNat n).length) := by
  have number : spelled ((ofNat n).map fun c => c.toNat - 48) = n := by
    rw [spelled, List.foldl_map]
    exact Nat.ofDigitChars_ten_toDigits
  rw [readNat_of_digits (ofNat_ne_nil n) fun c member => isDigit_of_mem_ofNat member, number]
  simp only [length_ofNat_le_iff]

theorem spelled_lt {digits : List Nat} (small : ∀ digit ∈ digits, digit < 10) :
    spelled digits < 10 ^ digits.length := by
  suffices general : ∀ total, digits.foldl (fun total digit => 10 * total + digit) total <
      (total + 1) * 10 ^ digits.length by
    simpa [spelled] using general 0
  induction digits with
  | nil => simp
  | cons digit rest ih =>
      intro total
      rw [List.forall_mem_cons] at small
      calc rest.foldl (fun total digit => 10 * total + digit) (10 * total + digit)
          < (10 * total + digit + 1) * 10 ^ rest.length := ih small.2 _
        _ ≤ ((total + 1) * 10) * 10 ^ rest.length := Nat.mul_le_mul_right _ (by omega)
        _ = (total + 1) * 10 ^ (digit :: rest).length := by
            rw [List.length_cons, Nat.pow_succ, Nat.mul_assoc, Nat.mul_comm 10]

/-- A number that plain digits are read as has no more digits than are read. -/
theorem readNat_lt {text : Text} (plain : isPlain text = true) {number : Nat}
    (read : readNat text = .ok number) : number < 10 ^ digitLimit := by
  rw [isPlain_iff] at plain
  rw [readNat_of_digits plain.1 plain.2] at read
  split at read
  next short =>
    cases read
    have small : ∀ digit ∈ text.map fun c => c.toNat - 48, digit < 10 := by
      intro digit member
      obtain ⟨c, listed, rfl⟩ := List.mem_map.mp member
      have bounds := bounds_of_isDigit (plain.2 c listed)
      omega
    calc spelled (text.map fun c => c.toNat - 48)
        < 10 ^ (text.map fun c => c.toNat - 48).length := spelled_lt small
      _ ≤ 10 ^ digitLimit := Nat.pow_le_pow_right (by decide) (by rwa [List.length_map])
  next => cases read

/-! ## Zeros in front -/

theorem ofNat_injective : Function.Injective ofNat :=
  Function.LeftInverse.injective (g := fun digits => Nat.ofDigitChars 10 digits 0)
    fun _ => Nat.ofDigitChars_ten_toDigits

theorem digitChar_of_isDigit {c : Char} (digit : c.isDigit = true) :
    c.toNat - 48 < 10 ∧ Nat.digitChar (c.toNat - 48) = c := by
  have bounds := bounds_of_isDigit digit
  refine ⟨by omega, Char.toNat_inj.mp ?_⟩
  rw [Nat.toNat_digitChar_of_lt_ten (by omega)]
  omega

/-- The decimal form of a positive number does not begin with a zero. -/
theorem head?_ofNat_ne {n : Nat} (positive : 0 < n) : (ofNat n).head? ≠ some '0' := by
  induction n using Nat.strong_induction_on with
  | _ n ih =>
      rw [ofNat, Nat.toDigits_eq_if (by decide)]
      split
      next small =>
        intro zero
        have value := congrArg Char.toNat (Option.some.inj zero)
        rw [Nat.toNat_digitChar_of_lt_ten small] at value
        have zeroValue : '0'.toNat = 48 := rfl
        omega
      next large =>
        have shorter := ih (n / 10) (by omega) (by omega)
        have front : Nat.toDigits 10 (n / 10) ≠ [] := Nat.toDigits_ne_nil
        rwa [List.head?_append_of_ne_nil _ front]

theorem exists_ofNat_append {n : Nat} (positive : 0 < n) {digits : Text}
    (all : ∀ c ∈ digits, c.isDigit = true) :
    ∃ number, 0 < number ∧ ofNat n ++ digits = ofNat number := by
  induction digits generalizing n with
  | nil => exact ⟨n, positive, List.append_nil _⟩
  | cons c rest ih =>
      rw [List.forall_mem_cons] at all
      obtain ⟨small, same⟩ := digitChar_of_isDigit all.1
      have longer := Nat.toDigits_append_toDigits (b := 10) (by decide) positive small
      rw [Nat.toDigits_of_lt_base small, same] at longer
      obtain ⟨number, above, whole⟩ := ih (n := 10 * n + (c.toNat - 48)) (by omega) all.2
      refine ⟨number, above, ?_⟩
      rw [← whole, ofNat, ofNat, ← longer, List.append_assoc, List.singleton_append]

/-- Plain digits without zeros in front are the decimal form of a positive number. -/
theorem exists_ofNat_of_isPlain {digits : Text} (plain : isPlain digits = true)
    (leading : digits.head? ≠ some '0') : ∃ number, 0 < number ∧ digits = ofNat number := by
  rw [isPlain_iff] at plain
  obtain ⟨c, rest, rfl⟩ := List.exists_cons_of_ne_nil plain.1
  have digit := plain.2 c List.mem_cons_self
  obtain ⟨small, same⟩ := digitChar_of_isDigit digit
  have positive : 0 < c.toNat - 48 := by
    by_contra zero
    rw [Nat.eq_zero_of_not_pos zero] at same
    exact leading (congrArg some same.symm)
  obtain ⟨number, above, whole⟩ := exists_ofNat_append positive
    fun d member => plain.2 d (List.mem_cons_of_mem c member)
  rw [ofNat, Nat.toDigits_of_lt_base small, same] at whole
  exact ⟨number, above, whole⟩

end Inquiry.Decimal
