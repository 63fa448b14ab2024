import Inquiry.Proofs.Compiler.Agreement
import Inquiry.Proofs.Compiler.Trail

/-!
# Explicit overrides

A department or a date window that a caller gives takes the place of what the question says about
it.  The other readings of the question never see the overrides.

So an extraction under overrides is the extraction without them, with two of its parts replaced,
and the query that is returned tells of the department and the window that were given.
-/

namespace Inquiry

/-- A date window that is given and says something. -/
def Extraction.spokenRange (dateRange : Option Text) : Option Text :=
  dateRange.filter fun given => !(Text.strip given).isEmpty

/-- The intent with the department and the window that were given in place of its own. -/
def Intent.overriddenBy (vocabulary : Vocabulary) (department dateRange : Option Text)
    (intent : Intent) : Intent :=
  { intent with
    department := (Request.named? department).or intent.department
    dateRange :=
      ((Extraction.spokenRange dateRange).map (Extraction.namedRange vocabulary)).getD
        intent.dateRange }

/-- What a query tells of the overrides that it was compiled under. -/
structure CompiledQuery.Obeys (vocabulary : Vocabulary) (department dateRange : Option Text)
    (query : CompiledQuery) : Prop where
  departmentFilter : ∀ given, department = some given → given ≠ [] →
    query.departmentFilter = some (Text.lower (Text.strip given))
  bound : ∀ given, department = some given → given ≠ [] →
    query.parameters.head? = some (Text.lower (Text.strip given))
  marked : ∀ given, department = some given → given ≠ [] →
    "department_filter".toList ∈ query.matchedPatterns
  dateFilter : ∀ given, dateRange = some given → Text.strip given ≠ [] →
    query.dateFilter = Tagged.tag (Extraction.namedRange vocabulary given).kind

/-! ## Readings under overrides -/

namespace Extraction

variable {vocabulary : Vocabulary}

/-- A window that is given takes the place of the one that the question mentions. -/
theorem dateRange_eq (question : Text) (given : Option Text) :
    dateRange vocabulary question given =
      ((spokenRange given).map (namedRange vocabulary)).getD
        (dateRange vocabulary question none) := by
  cases spoken : spokenRange given with
  | none =>
      rw [spokenRange] at spoken
      rw [dateRange, spoken]
      rfl
  | some content =>
      rw [spokenRange] at spoken
      rw [dateRange, spoken]
      rfl

/-- An empty window is none, like any other that is blank. -/
theorem spokenRange_filter (given : Option Text) :
    spokenRange (given.filter fun given => !given.isEmpty) = spokenRange given := by
  cases given with
  | none => rfl
  | some given => cases given <;> rfl

theorem filter_of_ne_nil {given : Text} (nonempty : given ≠ []) :
    (some given).filter (fun given => !given.isEmpty) = some given := by
  simp [nonempty]

/-- A listed department takes the place of the one that the question names. -/
theorem department_override {department : Option Text}
    (listed : ¬Compiler.Unlisted vocabulary department) (question : Text)
    {code : Option Department}
    (unaided : Extraction.department vocabulary question none = code.map Tagged.tag) :
    Extraction.department vocabulary question (department.filter fun given => !given.isEmpty) =
      ((Request.named? department).or code).map Tagged.tag := by
  cases department with
  | none => exact unaided
  | some given =>
      by_cases empty : given = []
      · rw [empty]
        exact unaided
      · have known : Text.lower (Text.strip given) ∈ vocabulary.departmentCodes := by
          by_contra absent
          exact listed ⟨given, rfl, empty, absent⟩
        obtain ⟨rule, -, tagged⟩ := List.mem_map.mp known
        have named : Request.named? (some given) = some rule.code := by
          rw [Request.named?, Option.bind_some, ← tagged, LawfulTagged.ofTag_tag]
        rw [named, filter_of_ne_nil empty, Extraction.department, ← tagged]
        rfl

end Extraction

namespace Intent

variable {vocabulary : Vocabulary} {department : Option Text}

/-- An extraction under overrides is the extraction without them, with the department and the
window replaced by the given ones. -/
theorem ofQuestion_eq_overridden (listed : ¬Compiler.Unlisted vocabulary department)
    (dateRange : Option Text) (question : Text) :
    ofQuestion vocabulary question (.ofOption department) (.ofOption dateRange) =
      (ofQuestion vocabulary question .null .null).map
        (overriddenBy vocabulary department dateRange) := by
  have unchecked : Compiler.checkDepartment vocabulary .null = .ok () := rfl
  obtain ⟨code, unaided⟩ :=
    Extraction.exists_department unchecked rfl (Text.strip (Text.lower question))
  have absent : Extraction.override .null = .ok none := rfl
  rw [ofQuestion, ofQuestion, Extraction.override_ofOption, Extraction.override_ofOption, absent]
  simp only [Outcome.ok_bind]
  rw [Extraction.department_override listed _ unaided, unaided, Extraction.dateRange_eq,
    Extraction.spokenRange_filter]
  cases Extraction.limit vocabulary (Text.strip (Text.lower question)) with
  | error fault => rfl
  | ok limit =>
      simp only [Outcome.ok_bind, ofReadings_eq_map]
      cases (Validation.textsFrom 0 (Extraction.metrics vocabulary
        (Text.strip (Text.lower question)))).under (.field "metrics") <;> rfl

end Intent

/-! ## Queries under overrides -/

namespace Compiler.Run

variable {vocabulary : Vocabulary} {job : Job} {query : CompiledQuery} {style : ParamStyle}
  {question : Text} {intent : Intent} {department dateRange : Option Text}

/-- The parts of an intent that overrides decide are those of its query. -/
theorem obeys (run : Run vocabulary job query style question intent)
    (wellFormed : vocabulary.WellFormed) (departmentGiven : job.department = .ofOption department)
    (windowGiven : job.dateRange = .ofOption dateRange) :
    query.Obeys vocabulary department dateRange := by
  have extracted := run.extracted
  rw [departmentGiven, windowGiven] at extracted
  obtain ⟨_, _, overridden, windowOverridden, source⟩ := Intent.exists_readFrom extracted
  rw [Extraction.override_ofOption] at overridden windowOverridden
  cases overridden
  cases windowOverridden
  have located : ∀ given, department = some given → given ≠ [] →
      intent.department.map Tagged.tag = some (Text.lower (Text.strip given)) := by
    rintro given rfl nonempty
    rw [source.department, Extraction.filter_of_ne_nil nonempty, Extraction.department]
  constructor
  case departmentFilter =>
    intro given named nonempty
    rw [run.departmentFilter, located given named nonempty]
  case bound =>
    intro given named nonempty
    rw [run.parameters, run.drawn.parameters_eq, located given named nonempty]
    rfl
  case marked =>
    intro given named nonempty
    have present := congrArg Option.isSome (located given named nonempty)
    rw [Option.isSome_map] at present
    exact (run.mem_trail wellFormed .departmentFilter).mpr present
  case dateFilter =>
    rintro given rfl spoken
    have kept : Extraction.spokenRange (some given) = some given := by
      simp [Extraction.spokenRange, spoken]
    rw [run.dateFilter, source.dateRange, Extraction.dateRange_eq,
      Extraction.spokenRange_filter, kept]
    rfl

end Compiler.Run

/-- Overrides win, whatever the question says, and touch nothing but what they are about: a query
tells of the department and the window that were given, and an extraction under a department that
is accepted and a window is the one without them, those two parts apart. -/
theorem overrides_win {raw : Value} {vocabulary : Vocabulary}
    (accepted : Vocabulary.read raw = .ok vocabulary) (department dateRange : Option Text) :
    (∀ (surroundings : Surroundings) (job : Job) (query : CompiledQuery),
      job.department = .ofOption department → job.dateRange = .ofOption dateRange →
      Compiler.compile surroundings { job with vocabulary := some vocabulary } = .ok query →
        query.Obeys vocabulary department dateRange) ∧
    (¬Compiler.Unlisted vocabulary department → ∀ question,
      Intent.ofQuestion vocabulary question (.ofOption department) (.ofOption dateRange) =
        (Intent.ofQuestion vocabulary question .null .null).map
          (Intent.overriddenBy vocabulary department dateRange)) := by
  constructor
  · intro surroundings job query departmentGiven windowGiven returned
    obtain ⟨style, question, intent, run⟩ := Compiler.exists_run returned
    exact run.obeys (Vocabulary.wellFormed_of_read accepted) departmentGiven windowGiven
  · intro listed question
    exact Intent.ofQuestion_eq_overridden listed dateRange question

namespace Compiler

/-- A question about spring, asked for another department and for a window that no rule knows. -/
def overriddenJob : Job :=
  { sampleJob "Most total rain in spring" with
    department := .ofOption (some " HR ")
    dateRange := .ofOption (some "whenever") }

theorem overrides_win_sample :
    ¬Unlisted Vocabulary.sampleVocabulary (some " HR ") ∧
      (∃ query, compile unaided
          { overriddenJob with vocabulary := some Vocabulary.sampleVocabulary } = .ok query ∧
        query.departmentFilter = some "hr".toList ∧ query.parameters.head? = some "hr".toList ∧
        query.dateFilter = "custom".toList) ∧
      Intent.ofQuestion Vocabulary.sampleVocabulary "Most total rain in spring"
          (.ofOption (some " HR ")) (.ofOption (some "whenever")) =
        (Intent.ofQuestion Vocabulary.sampleVocabulary "Most total rain in spring" .null .null).map
          (Intent.overriddenBy Vocabulary.sampleVocabulary (some " HR ") (some "whenever")) := by
  have listed : ¬Unlisted Vocabulary.sampleVocabulary (some " HR ") := by
    rintro ⟨_, ⟨⟩, -, absent⟩
    revert absent
    decide
  obtain ⟨query, returned⟩ : ∃ query, compile unaided
      { overriddenJob with vocabulary := some Vocabulary.sampleVocabulary } = .ok query :=
    Outcome.exists_of_isSome (by decide +kernel)
  obtain ⟨obeyed, frame⟩ :=
    overrides_win Vocabulary.read_sampleSource (some " HR ") (some "whenever")
  have told := obeyed unaided overriddenJob query rfl rfl returned
  refine ⟨listed, ⟨query, returned, ?_, ?_, ?_⟩, frame listed "Most total rain in spring"⟩
  · rw [told.departmentFilter " HR " rfl (by decide)]
    decide
  · rw [told.bound " HR " rfl (by decide)]
    decide
  · rw [told.dateFilter "whenever" rfl (by decide)]
    decide

end Compiler

end Inquiry
