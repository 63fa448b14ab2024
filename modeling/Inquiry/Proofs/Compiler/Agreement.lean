import Inquiry.Proofs.Compiler.Entry
import Inquiry.Proofs.Text.Stripped

/-!
# The two entry points

A question is handed over with its overrides as they are, or as a request that is read first.
Each way has checks of its own for the question and for the department.

They agree but for one department: one that is given and blank.  A request that holds it asks
for no department, just as a blank date window asks for none, while a compilation looks it up
among the departments and refuses it.
-/

namespace Inquiry

open Validation
open Vocabulary (bundled)

/-! ## Requests that are read -/

namespace Request

/-- A department is given that says nothing. -/
def BlankDepartment (department : Option Text) : Prop :=
  ∃ given, department = some given ∧ given ≠ [] ∧ Text.strip given = []

variable {question : Text} {department dateRange : Option Text} {debug : Bool}

theorem spoken_of_readQuestion {content : Text}
    (success : readQuestion (.text question) = .ok content) : Text.strip question ≠ [] := by
  simp only [readQuestion, text, bind, Except.bind] at success
  intro blank
  split at success
  · cases success
  · split at success
    · cases success
    · rw [if_pos (by simp [blank])] at success
      cases success

theorem known_of_readDepartment {code : Option Department}
    (success : readDepartment (.ofOption department) = .ok code) : Known department := by
  rintro given rfl
  by_cases blank : Text.lower (Text.strip given) = []
  · exact .inl blank
  · right
    have nonempty : (Text.lower (Text.strip given)).isEmpty = false := by simpa using blank
    simp only [readDepartment, Value.ofOption, Option.map_some, Option.getD_some, nonempty,
      Bool.false_eq_true, if_false] at success
    obtain ⟨found, read, -⟩ := Checked.map_eq_ok.mp success
    rw [← tagged_eq_ok read]
    exact List.mem_map.mpr ⟨found, by cases found <;> decide, rfl⟩

/-- A request is read exactly when its question says something and its department is blank or
known. -/
theorem exists_read_iff (short : question.length ≤ longestQuestion) :
    (∃ request, read (fields question department dateRange debug) = .ok request) ↔
      Text.strip question ≠ [] ∧ Known department := by
  constructor
  · rintro ⟨request, success⟩
    obtain ⟨_, _, success, -, -⟩ := Checked.apply_eq_ok.mp success
    obtain ⟨_, _, success, -, -⟩ := Checked.apply_eq_ok.mp success
    obtain ⟨_, _, success, located, -⟩ := Checked.apply_eq_ok.mp success
    obtain ⟨_, _, -, asked, -⟩ := Checked.apply_eq_ok.mp success
    exact ⟨spoken_of_readQuestion (Checked.under_eq_ok.mp asked),
      known_of_readDepartment (Checked.under_eq_ok.mp located)⟩
  · rintro ⟨spoken, known⟩
    exact ⟨_, read_fields spoken short known dateRange debug⟩

end Request

/-! ## Departments of either entry point -/

section Departments

variable {vocabulary : Vocabulary} {department : Option Text}

/-- A department is known to a request if the vocabulary lists it or it is blank. -/
theorem Request.known_iff (complete : vocabulary.departmentCodes = Tagged.tags Department) :
    Known department ↔ ¬Compiler.Unlisted vocabulary department ∨ BlankDepartment department := by
  constructor
  · intro known
    by_cases blank : BlankDepartment department
    · exact .inr blank
    · left
      rintro ⟨given, rfl, nonempty, absent⟩
      rw [complete] at absent
      have silent : Text.lower (Text.strip given) = [] := (known given rfl).resolve_right absent
      refine Text.lower_strip_ne_nil (fun empty => ?_) silent
      exact blank ⟨given, rfl, nonempty, empty⟩
  · rintro (listed | ⟨_, rfl, -, blank⟩) given found
    · by_cases empty : given = []
      · left
        rw [empty]
        rfl
      · right
        by_contra absent
        rw [← complete] at absent
        exact listed ⟨given, found, empty, absent⟩
    · obtain rfl := Option.some.inj found
      left
      rw [blank]
      rfl

theorem Compiler.unlisted_of_blank (complete : vocabulary.departmentCodes = Tagged.tags Department)
    (blank : Request.BlankDepartment department) : Unlisted vocabulary department := by
  obtain ⟨given, rfl, nonempty, silent⟩ := blank
  refine ⟨given, rfl, nonempty, ?_⟩
  rw [complete, silent]
  decide

/-- A known department that is not blank is extracted as the one that it names. -/
theorem Intent.ofQuestion_named (known : Request.Known department)
    (spoken : ¬Request.BlankDepartment department) (question : Text) (dateRange : Value) :
    ofQuestion vocabulary question (.ofOption department) dateRange =
      ofQuestion vocabulary question
        (.ofOption ((Request.named? department).map Tagged.tag)) dateRange := by
  cases department with
  | none => rfl
  | some given =>
      by_cases empty : given = []
      · rw [empty]
        rfl
      · have inked : Text.strip given ≠ [] := fun blank => spoken ⟨given, rfl, empty, blank⟩
        have listed := (known given rfl).resolve_left (Text.lower_strip_ne_nil inked)
        obtain ⟨code, -, tagged⟩ := List.mem_map.mp listed
        have named : Request.named? (some given) = some code := by
          rw [Request.named?, Option.bind_some, ← tagged, LawfulTagged.ofTag_tag]
        have overridden : Extraction.override (.ofOption (some given)) = .ok (some given) := by
          obtain ⟨c, rest, rfl⟩ := List.exists_cons_of_ne_nil empty
          rfl
        have tidy : Text.lower (Text.strip (Tagged.tag code)) = Tagged.tag code := by
          cases code <;> decide
        have extracted : ∀ asked, Extraction.department vocabulary asked (some given) =
            Extraction.department vocabulary asked (some (Tagged.tag code)) := by
          intro asked
          rw [Extraction.department, Extraction.department, ← tagged, tidy]
        rw [named, ofQuestion, ofQuestion, overridden, Extraction.override_department]
        simp only [Outcome.ok_bind, Option.map_some, extracted]

end Departments

namespace Compiler

/-! ## Direct compilations -/

/-- A question with its overrides as they are, about a catalog. -/
def directJob (question : Text) (department dateRange : Option Text) (catalog : Catalog)
    (vocabulary : Option Vocabulary) (paramStyle : Value) : Job where
  question := .text question
  schema := .given catalog
  department := .ofOption department
  dateRange := .ofOption dateRange
  vocabulary
  paramStyle

variable {question : Text} {department dateRange : Option Text} {catalog : Catalog}
  {vocabulary : Option Vocabulary} {paramStyle : Value}

theorem departmentCodes_bundled : bundled.departmentCodes = Tagged.tags Department := by
  decide

/-- A request is compiled like the question with the overrides that it holds. -/
theorem compileRequest_eq (surroundings : Surroundings) (request : Request) :
    compileRequest surroundings request (.given catalog) vocabulary paramStyle =
      compile surroundings (directJob request.question (request.department.map Tagged.tag)
        request.dateRange catalog vocabulary paramStyle) := by
  rw [compileRequest, directJob]
  cases request.department <;> rfl

/-- Under the bundled vocabulary and a catalog that lacks nothing, there is a query exactly when
the question says something and the department is listed. -/
theorem exists_compileWith_iff (short : question.length ≤ Request.longestQuestion)
    (satisfied : catalog.missing bundled.schema = .ok []) (style : ParamStyle) :
    (∃ query, compileWith bundled style
        (directJob question department dateRange catalog vocabulary paramStyle) = .ok query) ↔
      Text.strip question ≠ [] ∧ ¬Unlisted bundled department := by
  constructor
  · rintro ⟨query, compiled⟩
    obtain ⟨content, asked, compiled⟩ := Outcome.bind_eq_ok.mp compiled
    obtain ⟨_, checked, -⟩ := Outcome.bind_eq_ok.mp compiled
    constructor
    · intro blank
      rw [directJob, questionText, if_pos (by simp [blank])] at asked
      cases asked
    · intro unlisted
      obtain ⟨given, refused⟩ := checkDepartment_of_unlisted unlisted
      rw [directJob, refused] at checked
      cases checked
  · rintro ⟨spoken, listed⟩
    obtain ⟨query, compiled⟩ :=
      exists_compileWith spoken short (checkDepartment_of_listed listed) dateRange style
    refine ⟨query, ?_⟩
    rw [compiled _ rfl rfl rfl, directJob, checkCatalog_given, satisfied]
    rfl

/-- A known department that is not blank compiles like the one that it names. -/
theorem compileWith_named (known : Request.Known department)
    (inked : ¬Request.BlankDepartment department) (style : ParamStyle) :
    compileWith bundled style (directJob question ((Request.named? department).map Tagged.tag)
        dateRange catalog vocabulary paramStyle) =
      compileWith bundled style
        (directJob question department dateRange catalog vocabulary paramStyle) := by
  have listed : ¬Unlisted bundled department :=
    ((Request.known_iff departmentCodes_bundled).mp known).resolve_right inked
  simp only [compileWith, directJob, Intent.ofQuestion_named known inked,
    checkDepartment_of_listed listed, checkDepartment_bundled]

/-! ## Agreement -/

/-- A request is read exactly when the direct compilation returns a query, and then it compiles
to that query. -/
structure Agree (reading : Checked Request) (direct : Except Fault CompiledQuery)
    (ofRequest : Request → Except Fault CompiledQuery) : Prop where
  returns : (∃ request, reading = .ok request) ↔ ∃ query, direct = .ok query
  same : ∀ request, reading = .ok request → ofRequest request = direct

end Compiler

/-- The two entry points agree, under the bundled vocabulary and on a catalog that lacks nothing,
exactly when the question is blank or the department is not: a department that is given and blank
is none to a request, and refused by a compilation. -/
theorem entry_points_agree_iff {question : Text}
    (short : question.length ≤ Request.longestQuestion) (department dateRange : Option Text)
    (debug : Bool) {catalog : Catalog} (satisfied : catalog.missing bundled.schema = .ok [])
    {surroundings : Surroundings} {vocabulary : Option Vocabulary}
    (supplied : vocabulary.elim surroundings.vocabulary Except.ok = .ok bundled)
    {paramStyle : Value} {style : ParamStyle}
    (chosen : Compiler.style surroundings paramStyle = .ok style) :
    Compiler.Agree (Request.read (Request.fields question department dateRange debug))
        (Compiler.compile surroundings
          (Compiler.directJob question department dateRange catalog vocabulary paramStyle))
        (fun request =>
          Compiler.compileRequest surroundings request (.given catalog) vocabulary paramStyle) ↔
      Text.strip question = [] ∨ ¬Request.BlankDepartment department := by
  rw [Compiler.compile_eq supplied chosen]
  constructor
  · intro agree
    have returns := agree.returns
    rw [Request.exists_read_iff short, Compiler.exists_compileWith_iff short satisfied style,
      and_congr_right_iff] at returns
    by_contra! ⟨spoken, blank⟩
    have known := (Request.known_iff Compiler.departmentCodes_bundled).mpr (.inr blank)
    exact (returns spoken).mp known
      (Compiler.unlisted_of_blank Compiler.departmentCodes_bundled blank)
  · intro apart
    constructor
    case returns =>
      rw [Request.exists_read_iff short, Compiler.exists_compileWith_iff short satisfied style,
        and_congr_right_iff]
      intro spoken
      have inked := apart.resolve_left spoken
      rw [Request.known_iff Compiler.departmentCodes_bundled, or_iff_left inked]
    case same =>
      intro request read
      obtain ⟨spoken, known⟩ := (Request.exists_read_iff short).mp ⟨request, read⟩
      rw [Request.read_fields spoken short known] at read
      cases read
      rw [Compiler.compileRequest_eq, Compiler.compile_eq supplied chosen]
      exact Compiler.compileWith_named known (apart.resolve_left spoken) style

namespace Compiler

theorem satisfied_capitals : Catalog.capitals.missing bundled.schema = .ok [] := by
  with_unfolding_all rfl

theorem entry_points_agree_padded :
    Agree (Request.read (Request.fields "Top 5 sales metrics" (some " HR ") (some " ") true))
      (compile unaided (directJob "Top 5 sales metrics" (some " HR ") (some " ") Catalog.capitals
        (some bundled) (.text "dollar")))
      (fun request => compileRequest unaided request (.given Catalog.capitals) (some bundled)
        (.text "dollar")) := by
  have short : "Top 5 sales metrics".toList.length ≤ Request.longestQuestion := by decide
  have inked : ¬Request.BlankDepartment (some " HR ") := by
    rintro ⟨_, ⟨⟩, -, blank⟩
    revert blank
    decide
  exact (entry_points_agree_iff short (some " HR ") (some " ") true satisfied_capitals rfl
    rfl).mpr (.inr inked)

/-- A blank department is none to a request, and the direct compilation refuses it. -/
theorem blank_department_disagrees :
    (Request.read (Request.fields "hello" (some "  ") none false) =
        .ok { question := "hello" } ∧
      compile unaided (directJob "hello" (some "  ") none Catalog.capitals (some bundled)
          (.text "dollar")) =
        .error (.unknownDepartment "  " bundled.departmentCodes)) ∧
      ¬Agree (Request.read (Request.fields "hello" (some "  ") none false))
        (compile unaided (directJob "hello" (some "  ") none Catalog.capitals (some bundled)
          (.text "dollar")))
        (fun request => compileRequest unaided request (.given Catalog.capitals) (some bundled)
          (.text "dollar")) := by
  have read : Request.read (Request.fields "hello" (some "  ") none false) =
      .ok { question := "hello" } := by
    with_unfolding_all rfl
  have refused : compile unaided (directJob "hello" (some "  ") none Catalog.capitals
      (some bundled) (.text "dollar")) =
        .error (.unknownDepartment "  " bundled.departmentCodes) := by
    with_unfolding_all rfl
  refine ⟨⟨read, refused⟩, fun agree => ?_⟩
  obtain ⟨query, compiled⟩ := agree.returns.mp ⟨_, read⟩
  rw [refused] at compiled
  cases compiled

end Compiler

end Inquiry
