import Inquiry.Proofs.Validation.Basic
import Inquiry.Request

/-!
# Requests that are accepted

A request is accepted when its question is neither blank nor too long and its
department is blank or a known one, in any case and with any blanks around it.
-/

namespace Inquiry

open Validation

/-- An optional text as a value. -/
def Value.ofOption (content : Option Text) : Value :=
  (content.map Value.text).getD .null

namespace Request

/-- The fields of a request as a caller gives them. -/
def fields (question : Text) (department dateRange : Option Text) (debug : Bool) :
    List (Value × Value) :=
  [(.text "question", .text question), (.text "department", .ofOption department),
   (.text "date_range", .ofOption dateRange), (.text "debug", .bool debug)]

/-- A given department that is blank or known. -/
def Known (department : Option Text) : Prop :=
  ∀ given, department = some given →
    Text.lower (Text.strip given) = [] ∨
      Text.lower (Text.strip given) ∈ Tagged.tags Department

/-- The department that a given one names. -/
def named? (department : Option Text) : Option Department :=
  department.bind fun given => Tagged.ofTag? (Text.lower (Text.strip given))

variable {question : Text} {department : Option Text}

theorem readQuestion_text (spoken : Text.strip question ≠ [])
    (short : question.length ≤ longestQuestion) :
    readQuestion (.text question) = .ok question := by
  have nonempty : question ≠ [] := by
    rintro rfl
    exact spoken rfl
  simp only [readQuestion, text, bind, Except.bind, List.isEmpty_iff]
  rw [if_neg nonempty, if_neg (Nat.not_lt.mpr short), if_neg spoken]

theorem readDepartment_known (known : Known department) :
    readDepartment (.ofOption department) = .ok (named? department) := by
  cases department with
  | none => rfl
  | some given =>
      rcases known given rfl with blank | listed
      · have unnamed : named? (some given) = none := by
          rw [named?, Option.bind_some, blank]
          decide
        simp only [readDepartment, Value.ofOption, Option.map_some, Option.getD_some, blank,
          unnamed, List.isEmpty_nil, if_true]
        rfl
      · obtain ⟨code, -, tagged⟩ := List.mem_map.mp listed
        have nonempty : Tagged.tag code ≠ [] := by
          cases code <;> decide
        have found : named? (some given) = some code := by
          rw [named?, Option.bind_some, ← tagged, LawfulTagged.ofTag_tag]
        simp only [readDepartment, Value.ofOption, Option.map_some, Option.getD_some, ← tagged,
          found, List.isEmpty_iff, nonempty, if_false]
        exact Checked.map_eq_ok.mpr ⟨code, tagged_tag code, rfl⟩

/-- A request with acceptable fields is read. -/
theorem read_fields (spoken : Text.strip question ≠ [])
    (short : question.length ≤ longestQuestion) (known : Known department)
    (dateRange : Option Text) (debug : Bool) :
    read (fields question department dateRange debug) =
      .ok { question, department := named? department, dateRange, debug } := by
  have window : nullable text (.ofOption dateRange) = .ok dateRange := by
    cases dateRange <;> rfl
  have entries : ∀ {α : Type} (name : Text) (default? : Option α) (value : Value)
      (parse : Value → Checked α), Value.lookup? name
        (fields question department dateRange debug) = some value →
      field (fields question department dateRange debug) name default? parse =
        (parse value).under (.field name) := by
    intro α name default? value parse found
    simp only [field, found]
  rw [read, entries _ _ _ _ rfl, entries _ _ _ _ rfl, entries _ _ _ _ rfl, entries _ _ _ _ rfl,
    readQuestion_text spoken short, readDepartment_known known, window]
  rfl

end Request

end Inquiry
