import Inquiry.Proofs.Compiler.Outcome

/-!
# Descriptions at the entry

A caller hands over a question and a description of the database as they were decoded.  A
description that is not of the right shape is met by no check: reading it, or looking names up
in it, fails with a fault of the language.

So the refusals that callers are told to handle are all that they get exactly if the question or
the department is refused first, or the description can be read and compared with the contract.
-/

namespace Inquiry

open Outcome (Hinges)
open Vocabulary (bundled)

namespace Compiler

/-- The classes of the refusals that a compilation tells its callers of. -/
def refusals : List Text :=
  ["SchemaNotFoundError", "SchemaContractError", "InvalidQuestionError", "UnsafeSQLError"]

/-- The fault is reported as a refusal of one of these classes. -/
def IsRefusal (fault : Fault) : Prop :=
  ∃ report, fault.report? = some report ∧ report.name ∈ refusals

/-- The department is one that the vocabulary does not list. -/
def Unlisted (vocabulary : Vocabulary) (department : Option Text) : Prop :=
  ∃ given, department = some given ∧ given ≠ [] ∧
    Text.lower (Text.strip given) ∉ vocabulary.departmentCodes

variable {vocabulary : Vocabulary} {department : Option Text}

theorem checkDepartment_text {given : Text} (nonempty : given ≠ []) :
    checkDepartment vocabulary (.text given) =
      if Text.lower (Text.strip given) ∈ vocabulary.departmentCodes then .ok ()
      else .error (.unknownDepartment given vocabulary.departmentCodes) := by
  have overridden : Extraction.override (.text given) = .ok (some given) := by
    have present : (Value.text given).isPresent = true := by
      simpa [Value.isPresent] using nonempty
    rw [Extraction.override, present]
    rfl
  change (Extraction.override (.text given) >>= _) = _
  simp only [overridden, bind, Except.bind, List.contains_eq_mem, decide_eq_true_eq]
  rfl

theorem checkDepartment_of_unlisted (unlisted : Unlisted vocabulary department) :
    ∃ given, checkDepartment vocabulary (.ofOption department) =
      .error (.unknownDepartment given vocabulary.departmentCodes) := by
  obtain ⟨given, rfl, nonempty, absent⟩ := unlisted
  exact ⟨given, (checkDepartment_text nonempty).trans (if_neg absent)⟩

theorem checkDepartment_of_listed (listed : ¬Unlisted vocabulary department) :
    checkDepartment vocabulary (.ofOption department) = .ok () := by
  cases department with
  | none => rfl
  | some given =>
      by_cases empty : given = []
      · rw [empty]
        rfl
      · have known : Text.lower (Text.strip given) ∈ vocabulary.departmentCodes := by
          by_contra absent
          exact listed ⟨given, rfl, empty, absent⟩
        exact (checkDepartment_text empty).trans (if_pos known)

/-! ## Comparing a description -/

/-- What a contract asks for and the described catalog lacks. -/
def missingFromDescription (contract : SchemaContract) (entries : List (Value × Value)) :
    Except Fault (List Text) :=
  Catalog.read entries >>= fun catalog => catalog.missing contract

theorem checkCatalog_description (entries : List (Value × Value)) :
    checkCatalog vocabulary (.description (.mapping entries)) =
      missingFromDescription vocabulary.schema entries >>= fun missing =>
        if missing = [] then .ok () else .error (.contractViolated missing) := by
  have described : checkCatalog vocabulary (.description (.mapping entries)) =
      Catalog.read entries >>= fun catalog => checkCatalog vocabulary (.given catalog) := by
    change ((Catalog.read entries).map some >>= _) = _
    cases Catalog.read entries <;> rfl
  rw [described, missingFromDescription]
  cases Catalog.read entries with
  | error fault => rfl
  | ok catalog => exact checkCatalog_given vocabulary catalog

/-- The description can be read, and what was read can be compared with the contract. -/
def IsComparable (contract : SchemaContract) (entries : List (Value × Value)) : Prop :=
  DescribesSchema entries ∧
    ∀ catalog, Catalog.read entries = .ok catalog → catalog.Comparable contract

theorem hinges_missingFromDescription {expected : Fault → Prop} (contract : SchemaContract)
    (entries : List (Value × Value)) :
    Hinges Misshapen expected (IsComparable contract entries)
      (missingFromDescription contract entries) :=
  (Catalog.hinges_read entries).bind fun catalog found =>
    (catalog.hinges_missing contract).congr (by simp [found])

/-! ## Outcomes -/

/-- A query, or a refusal that callers are told of. -/
def Surfaces (outcome : Except Fault CompiledQuery) : Prop :=
  ∀ fault, outcome = .error fault → IsRefusal fault

theorem not_isRefusal_of_misshapen {fault : Fault} (misshapen : Misshapen fault) :
    ¬IsRefusal fault := by
  rintro ⟨report, reported, -⟩
  cases misshapen <;> cases reported

theorem isRefusal_blankQuestion : IsRefusal .blankQuestion :=
  ⟨_, rfl, by decide⟩

theorem isRefusal_unknownDepartment (given : Text) (allowed : List Text) :
    IsRefusal (.unknownDepartment given allowed) := by
  have listed : ("InvalidQuestionError" : Text) ∈ refusals := by decide
  exact ⟨_, rfl, listed⟩

theorem isRefusal_contractViolated (missing : List Text) :
    IsRefusal (.contractViolated missing) := by
  have listed : ("SchemaContractError" : Text) ∈ refusals := by decide
  exact ⟨_, rfl, listed⟩

theorem surfaces_of_query {outcome : Except Fault CompiledQuery} {query : CompiledQuery}
    {shape : Prop} (holds : shape) (compiled : outcome = .ok query) :
    (Surfaces outcome ↔ shape) ∧
      ∀ other, outcome = .error other → IsRefusal other ∨ Misshapen other := by
  rw [compiled]
  refine ⟨iff_of_true ?_ holds, ?_⟩
  · rintro other ⟨⟩
  · rintro other ⟨⟩

theorem surfaces_of_refusal {outcome : Except Fault CompiledQuery} {fault : Fault} {shape : Prop}
    (refusal : IsRefusal fault) (holds : shape) (failed : outcome = .error fault) :
    (Surfaces outcome ↔ shape) ∧
      ∀ other, outcome = .error other → IsRefusal other ∨ Misshapen other := by
  rw [failed]
  refine ⟨iff_of_true ?_ holds, ?_⟩
  · rintro other ⟨⟩
    exact refusal
  · rintro other ⟨⟩
    exact .inl refusal

theorem surfaces_of_misshapen {outcome : Except Fault CompiledQuery} {fault : Fault}
    {shape : Prop} (misshapen : Misshapen fault) (fails : ¬shape)
    (failed : outcome = .error fault) :
    (Surfaces outcome ↔ shape) ∧
      ∀ other, outcome = .error other → IsRefusal other ∨ Misshapen other := by
  rw [failed]
  refine ⟨iff_of_false ?_ fails, ?_⟩
  · exact fun surfaces => not_isRefusal_of_misshapen misshapen (surfaces fault rfl)
  · rintro other ⟨⟩
    exact .inr misshapen

end Compiler

/-- The outcome of a question of acceptable length with a decoded description, under the bundled
vocabulary: a query, or a refusal of one of four classes, if the question is blank, the
department unlisted, or the description can be read and compared with the contract.  Otherwise
it is a fault of the language. -/
theorem surfaces_iff {question : Text} (short : question.length ≤ Request.longestQuestion)
    {job : Job} (asked : job.question = .text question) {department dateRange : Option Text}
    (located : job.department = .ofOption department)
    (windowed : job.dateRange = .ofOption dateRange) {entries : List (Value × Value)}
    (described : job.schema = .description (.mapping entries)) {surroundings : Surroundings}
    (supplied : job.vocabulary.elim surroundings.vocabulary Except.ok = .ok bundled)
    {style : ParamStyle} (chosen : Compiler.style surroundings job.paramStyle = .ok style) :
    (Compiler.Surfaces (Compiler.compile surroundings job) ↔
      Text.strip question = [] ∨ Compiler.Unlisted bundled department ∨
        Compiler.IsComparable bundled.schema entries) ∧
      ∀ fault, Compiler.compile surroundings job = .error fault →
        Compiler.IsRefusal fault ∨ Misshapen fault := by
  rw [Compiler.compile_eq supplied chosen]
  by_cases blank : Text.strip question = []
  · apply Compiler.surfaces_of_refusal Compiler.isRefusal_blankQuestion (.inl blank)
    rw [Compiler.compileWith, asked, Compiler.questionText, blank]
    rfl
  by_cases unlisted : Compiler.Unlisted bundled department
  · obtain ⟨given, unknown⟩ := Compiler.checkDepartment_of_unlisted unlisted
    apply Compiler.surfaces_of_refusal (Compiler.isRefusal_unknownDepartment given _)
      (.inr (.inl unlisted))
    rw [Compiler.compileWith, asked, located, Compiler.questionText_text blank, unknown]
    rfl
  -- Past the question and the department, the catalog alone decides the outcome.
  obtain ⟨query, compiled⟩ := Compiler.exists_compileWith blank short
    (Compiler.checkDepartment_of_listed unlisted) dateRange style
  have compared : Compiler.compileWith bundled style job =
      Compiler.missingFromDescription bundled.schema entries >>= fun missing =>
        if missing = [] then .ok query else .error (.contractViolated missing) := by
    rw [compiled job asked located windowed, described, Compiler.checkCatalog_description]
    cases Compiler.missingFromDescription bundled.schema entries with
    | error fault => rfl
    | ok missing => cases missing <;> rfl
  have hinges : Hinges Misshapen (fun _ => False) (Compiler.IsComparable bundled.schema entries)
      (Compiler.missingFromDescription bundled.schema entries) :=
    Compiler.hinges_missingFromDescription bundled.schema entries
  cases found : Compiler.missingFromDescription bundled.schema entries with
  | error fault =>
      apply Compiler.surfaces_of_misshapen (hinges.possible_of_error fault found)
      · rintro (empty | other | comparable)
        · exact blank empty
        · exact unlisted other
        · exact hinges.expected_of_shape comparable fault found
      · rw [compared, found]
        rfl
  | ok missing =>
      have comparable := hinges.shape_of_ok missing found
      cases missing with
      | nil =>
          apply Compiler.surfaces_of_query (.inr (.inr comparable))
          rw [compared, found]
          rfl
      | cons first rest =>
          apply Compiler.surfaces_of_refusal (Compiler.isRefusal_contractViolated _)
            (.inr (.inr comparable))
          rw [compared, found]
          rfl

namespace Compiler

/-- A question without overrides about a decoded description. -/
def describedJob (entries : List (Value × Value)) : Job where
  question := .text "sales"
  schema := .description (.mapping entries)
  vocabulary := some bundled
  paramStyle := .text "dollar"

/-- The description of the tables of the bundled vocabulary. -/
def sampleEntries : List (Value × Value) :=
  Catalog.capitals.describe.entries.toOption.getD []

theorem surfaces_sampleEntries : Surfaces (compile unaided (describedJob sampleEntries)) := by
  have compared : missingFromDescription bundled.schema sampleEntries = .ok [] := by
    with_unfolding_all rfl
  have hinges : Hinges Misshapen (fun _ => False) (IsComparable bundled.schema sampleEntries)
      (missingFromDescription bundled.schema sampleEntries) :=
    hinges_missingFromDescription bundled.schema sampleEntries
  have short : "sales".toList.length ≤ Request.longestQuestion := by decide
  have asked : (describedJob sampleEntries).question = .text "sales" := rfl
  have located : (describedJob sampleEntries).department = .ofOption none := rfl
  have windowed : (describedJob sampleEntries).dateRange = .ofOption none := rfl
  have described : (describedJob sampleEntries).schema = .description (.mapping sampleEntries) :=
    rfl
  have supplied : (describedJob sampleEntries).vocabulary.elim unaided.vocabulary Except.ok =
      .ok bundled := rfl
  have chosen : style unaided (describedJob sampleEntries).paramStyle = .ok .dollar := rfl
  exact (surfaces_iff short asked located windowed described supplied chosen).1.mpr
    (.inr (.inr (hinges.shape_of_ok [] compared)))

/-- Descriptions of a table without a name, of a number of tables, and of a table that goes by a
number. -/
theorem misshapen_descriptions :
    (compile unaided (describedJob [(.text "tables", .list [.mapping []])]) =
        .error (.missingKey "name") ∧
      ¬Surfaces (compile unaided (describedJob [(.text "tables", .list [.mapping []])]))) ∧
    (compile unaided (describedJob [(.text "tables", .int 5)]) = .error .wrongType ∧
      ¬Surfaces (compile unaided (describedJob [(.text "tables", .int 5)]))) ∧
    (compile unaided (describedJob
        [(.text "tables", .list [.mapping [(.text "name", .int 5)]])]) = .error .wrongType ∧
      ¬Surfaces (compile unaided (describedJob
        [(.text "tables", .list [.mapping [(.text "name", .int 5)]])]))) := by
  have raised : ∀ {outcome : Except Fault CompiledQuery} {fault : Fault}, Misshapen fault →
      outcome = .error fault → outcome = .error fault ∧ ¬Surfaces outcome := by
    intro outcome fault misshapen failed
    exact ⟨failed, fun surfaces => not_isRefusal_of_misshapen misshapen (surfaces fault failed)⟩
  refine ⟨raised .nameless ?_, raised .wrongType ?_, raised .wrongType ?_⟩
  · with_unfolding_all rfl
  · with_unfolding_all rfl
  · with_unfolding_all rfl

end Compiler

end Inquiry
