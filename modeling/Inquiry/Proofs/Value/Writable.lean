import Inquiry.Fault
import Inquiry.Proofs.Outcome

/-!
# Values that can be written

A value has a text unless an integer stands somewhere in it that has more digits than are
written.  A text that is no part of another value stands for itself, so it is always written.
-/

namespace Inquiry.Value

mutual

/-- No integer in the value, at any depth, has more digits than are written. -/
def IsWritable : Value → Prop
  | int number => (Decimal.ofNat number.natAbs).length ≤ Decimal.digitLimit
  | list items => AreWritable items
  | mapping entries => HoldWritable entries
  | _ => True

/-- Every value of a list can be written. -/
def AreWritable : List Value → Prop
  | [] => True
  | item :: rest => IsWritable item ∧ AreWritable rest

/-- The keys and values of a mapping can be written. -/
def HoldWritable : List (Value × Value) → Prop
  | [] => True
  | (key, value) :: rest => IsWritable key ∧ IsWritable value ∧ HoldWritable rest

end

/-! ## Literals -/

mutual

theorem isSome_literal? : ∀ value : Value, value.literal?.isSome = true ↔ value.IsWritable
  | null => by simp [literal?, IsWritable]
  | bool _ => by simp [literal?, IsWritable]
  | int number => by
      rw [literal?, Decimal.writeInt?, IsWritable]
      split <;> simp [*]
  | float _ => by simp [literal?, IsWritable]
  | text _ => by simp [literal?, IsWritable]
  | list items => by
      rw [literal?, IsWritable, Option.isSome_map]
      exact isSome_literals? items
  | mapping entries => by
      rw [literal?, IsWritable, Option.isSome_map]
      exact isSome_entryLiterals? entries

theorem isSome_literals? : ∀ items : List Value,
    (literals? items).isSome = true ↔ AreWritable items
  | [] => by simp [literals?, AreWritable]
  | item :: rest => by
      rw [AreWritable, ← isSome_literal? item, ← isSome_literals? rest, literals?]
      cases literal? item <;> cases literals? rest <;> simp

theorem isSome_entryLiterals? : ∀ entries : List (Value × Value),
    (entryLiterals? entries).isSome = true ↔ HoldWritable entries
  | [] => by simp [entryLiterals?, HoldWritable]
  | (key, value) :: rest => by
      rw [HoldWritable, ← isSome_literal? key, ← isSome_literal? value,
        ← isSome_entryLiterals? rest, entryLiterals?]
      cases literal? key <;> cases literal? value <;> cases entryLiterals? rest <;> simp

end

/-! ## Texts -/

theorem isSome_written? (value : Value) : value.written?.isSome = true ↔ value.IsWritable := by
  cases value with
  | text content => simp [written?, IsWritable]
  | _ => exact isSome_literal? _

/-- Writing fails for one reason only. -/
theorem write_eq_error_iff {value : Value} {fault : Fault} :
    value.write = .error fault ↔ fault = .unwritableInteger ∧ ¬value.IsWritable := by
  rw [write, ← isSome_written?]
  cases value.written? <;> simp [eq_comm]

theorem write_eq_ok_iff {value : Value} {written : Text} :
    value.write = .ok written ↔ value.written? = some written := by
  rw [write]
  cases value.written? <;> simp

end Inquiry.Value
