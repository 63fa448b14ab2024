import Inquiry.Proofs.Value.Writable
import Inquiry.Vocabulary.Reader

/-!
# Shapes of decoded values

A decoded value may be of any kind at any place.  Reading it goes on only where there is a
mapping if its entries are looked up, something to iterate over if its items are, and no integer
that is too long if its text is asked for.
-/

namespace Inquiry.Value

/-- A mapping with such entries. -/
def IsMapping (each : List (Value × Value) → Prop) (raw : Value) : Prop :=
  ∃ entries, raw = .mapping entries ∧ each entries

/-- Iteration yields such items and no others. -/
def Yields (each : Value → Prop) (raw : Value) : Prop :=
  ∃ items, raw.elements? = some items ∧ ∀ item ∈ items, each item

/-- What is given under a key, unless it counts as absent, yields such items. -/
def ListedUnder (key : Text) (each : Value → Prop) (entries : List (Value × Value)) : Prop :=
  ∀ value, lookup? key entries = some value → value.isPresent = true → value.Yields each

/-- What is given under a key yields such items. -/
def SectionUnder (key : Text) (each : Value → Prop) (entries : List (Value × Value)) : Prop :=
  ∀ value, lookup? key entries = some value → value.Yields each

theorem isMapping_mapping {fields : List (Value × Value)} {each : List (Value × Value) → Prop} :
    (mapping fields).IsMapping each ↔ each fields := by
  constructor
  · rintro ⟨_, ⟨⟩, holds⟩
    exact holds
  · exact fun holds => ⟨fields, rfl, holds⟩

theorem yields_nil (each : Value → Prop) : (list []).Yields each :=
  ⟨[], rfl, by simp⟩

theorem yields_presentOr {key : Text} {each : Value → Prop} {entries : List (Value × Value)} :
    (Vocabulary.presentOr (.list []) (lookup? key entries)).Yields each ↔
      ListedUnder key each entries := by
  rw [ListedUnder]
  cases found : lookup? key entries with
  | none => simp [Vocabulary.presentOr, yields_nil]
  | some value =>
      by_cases present : value.isPresent = true
      · simp [Vocabulary.presentOr, present]
      · simp [Vocabulary.presentOr, present, yields_nil]

theorem yields_getD {key : Text} {each : Value → Prop} {entries : List (Value × Value)} :
    ((lookup? key entries).getD (.list [])).Yields each ↔ SectionUnder key each entries := by
  rw [SectionUnder]
  cases lookup? key entries with
  | none => simp [yields_nil]
  | some value => simp

section Reading

variable {β : Type} {possible expected : Fault → Prop}

open Outcome (Hinges)

theorem hinges_write (unwritable : possible .unwritableInteger) (value : Value) :
    Hinges possible expected value.IsWritable value.write := by
  cases found : value.write with
  | error fault =>
      obtain ⟨rfl, short⟩ := write_eq_error_iff.mp found
      exact .error_of_not unwritable short
  | ok written =>
      have short : value.written?.isSome = true := by simp [write_eq_ok_iff.mp found]
      exact .ok ((isSome_written? value).mp short) written

theorem hinges_entries_bind {next : List (Value × Value) → Except Fault β}
    {each : List (Value × Value) → Prop} (wrong : possible .wrongType) {raw : Value}
    (later : ∀ entries, raw = .mapping entries →
      Hinges possible expected (each entries) (next entries)) :
    Hinges possible expected (raw.IsMapping each) (raw.entries >>= next) := by
  cases raw with
  | mapping entries =>
      apply (later entries rfl).congr
      constructor
      · exact fun holds => ⟨entries, rfl, holds⟩
      · rintro ⟨_, ⟨⟩, holds⟩
        exact holds
  | _ =>
      refine .error_of_not wrong ?_
      rintro ⟨_, ⟨⟩, -⟩

theorem hinges_elements_bind {next : List Value → Except Fault β} {each : Value → Prop}
    (wrong : possible .wrongType) {raw : Value}
    (later : ∀ items, Hinges possible expected (∀ item ∈ items, each item) (next items)) :
    Hinges possible expected (raw.Yields each) (raw.elements >>= next) := by
  rw [Yields, elements]
  cases raw.elements? with
  | none =>
      refine .error_of_not wrong ?_
      rintro ⟨items, ⟨⟩, -⟩
  | some items =>
      apply (later items).congr
      constructor
      · exact fun holds => ⟨items, rfl, holds⟩
      · rintro ⟨_, ⟨⟩, holds⟩
        exact holds

/-- Items that are read one by one before anything else is done. -/
theorem hinges_mapM_bind {α : Type} {step : Value → Except Fault α} {each : Value → Prop}
    (wrong : possible .wrongType)
    (one : ∀ item, Hinges possible expected (each item) (step item)) {rest : Prop}
    {next : List α → Except Fault β}
    (later : ∀ results, Hinges possible expected rest (next results)) (raw : Value) :
    Hinges possible expected (raw.Yields each ∧ rest)
      (raw.elements >>= fun items => items.mapM step >>= next) := by
  rw [← bind_assoc]
  exact (hinges_elements_bind wrong fun _ => Hinges.mapM fun item _ => one item).bind
    fun results _ => later results

end Reading

end Inquiry.Value
