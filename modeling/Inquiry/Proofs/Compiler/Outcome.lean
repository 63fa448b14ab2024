import Inquiry.Proofs.Catalog.Shape
import Inquiry.Proofs.Compiler.Run
import Inquiry.Proofs.Explanation
import Inquiry.Proofs.Request
import Inquiry.Proofs.Safety.Assembled
import Inquiry.Proofs.Text.Case

/-!
# Requests under the bundled vocabulary

No step from an accepted request to a compiled query can fail, whatever is asked,
apart from the comparison of the catalog with the contract.  The other steps do not
look at the catalog, so all catalogs that satisfy the contract get the same query.
-/

namespace Inquiry

open Vocabulary (bundled)

namespace Vocabulary

theorem labelled_bundled : bundled.Labelled where
  dateRanges := by decide
  aggregations := by decide

theorem text_metrics_bundled :
    ∀ name ∈ bundled.metrics.flatMap (·.names), name.text?.isSome = true := by
  decide

theorem length_metrics_bundled : (bundled.metrics.flatMap (·.names)).length ≤ 99 := by
  decide

end Vocabulary

/-! ## Readings -/

namespace Extraction

theorem override_department (department : Option Department) :
    override (.ofOption (department.map Tagged.tag)) = .ok (department.map Tagged.tag) := by
  cases department with
  | none => rfl
  | some code => cases code <;> rfl

end Extraction

namespace Compiler

theorem checkDepartment_bundled (department : Option Department) :
    checkDepartment bundled (.ofOption (department.map Tagged.tag)) = .ok () := by
  rw [checkDepartment, Extraction.override_department]
  cases department with
  | none => rfl
  | some code => cases code <;> rfl

end Compiler

/-- An intent is extracted from every question that is not too long. -/
theorem Intent.exists_ofQuestion {question : Text}
    (short : question.length ≤ Request.longestQuestion) {department : Value}
    (checked : Compiler.checkDepartment bundled department = .ok ()) (dateRange : Option Text) :
    ∃ intent, ofQuestion bundled question department (.ofOption dateRange) = .ok intent ∧
      intent.metrics.length ≤ 99 := by
  have shorter := Extraction.metrics_sublist bundled (Text.strip (Text.lower question))
  obtain ⟨intent, extracted⟩ := exists_extracted short checked dateRange fun name member =>
    Vocabulary.text_metrics_bundled name (shorter.subset member)
  have count := shorter.length_le.trans Vocabulary.length_metrics_bundled
  rw [(of_extracted extracted).1, List.length_map] at count
  exact ⟨intent, extracted, count⟩

namespace Compiler

/-! ## The safety gate -/

/-- The gate accepts a statement under the bundled vocabulary that binds few parameters. -/
theorem checkSafety_bundled {intent : Intent} (drawn : intent.Drawn bundled)
    (few : intent.metrics.length ≤ 99) (style : ParamStyle) :
    checkSafety bundled style (assemble bundled style intent) = .ok () := by
  have offered : bundled.Offers intent.dateRange := by
    rcases drawn.dateRange with range | range | ⟨rule, listed, range⟩
    · exact .inl (by rw [range])
    · exact .inl (by rw [range])
    · exact .inr ⟨rule, listed, range⟩
  have small : (assemble bundled style intent).parameters.length < 10 ^ Decimal.digitLimit := by
    rw [drawn.length_parameters]
    calc (if intent.department.isSome then 1 else 0) + intent.metrics.length
        < 10 ^ 3 := by split <;> omega
      _ ≤ 10 ^ Decimal.digitLimit := Nat.pow_le_pow_right (by decide) (by decide)
  have marks := marks_strip style offered
  have count : Safety.countPlaceholders (some style)
      (Text.strip (assemble bundled style intent).sql) =
        ((assemble bundled style intent).parameters.map Value.text).length := by
    rw [Safety.countPlaceholders_eq_length, marks, List.length_map, List.length_range',
      List.length_map]
  have accepted : Safety.check bundled (some style) (assemble bundled style intent).sql
      ((assemble bundled style intent).parameters.map .text) = .ok [] := by
    rw [check_assembled_eq offered, Safety.placeholderViolations]
    simp only [count, ne_eq, not_true_eq_false, if_false]
    cases style with
    | qmark => rfl
    | dollar =>
        rw [if_pos rfl, placeholderNumbers_eq_ok marks small]
        simp [bind, Except.bind, pure, Except.pure]
  rw [checkSafety, accepted]
  rfl

/-- Every extracted intent is compiled. -/
theorem exists_compileIntent {intent : Intent} (drawn : intent.Drawn bundled)
    (few : intent.metrics.length ≤ 99) (style : ParamStyle) :
    ∃ query, compileIntent bundled style intent = .ok query := by
  obtain ⟨explanation, explained⟩ := exists_explain Vocabulary.labelled_bundled intent
    (assemble bundled style intent).trail
  exact ⟨_, Outcome.bind_eq_ok.mpr ⟨(), checkSafety_bundled drawn few style,
    Outcome.bind_eq_ok.mpr ⟨explanation, explained, rfl⟩⟩⟩

/-- A job is compiled under the vocabulary and the style that are at hand. -/
theorem compile_eq {surroundings : Surroundings} {job : Job} {vocabulary : Vocabulary}
    {style : ParamStyle}
    (supplied : job.vocabulary.elim surroundings.vocabulary Except.ok = .ok vocabulary)
    (chosen : Compiler.style surroundings job.paramStyle = .ok style) :
    compile surroundings job = compileWith vocabulary style job := by
  rw [compile, chosen]
  cases given : job.vocabulary with
  | none =>
      rw [given, Option.elim_none] at supplied
      simp only [supplied]
      rfl
  | some known =>
      rw [given, Option.elim_some] at supplied
      cases supplied
      rfl

/-- A job is done under the bundled vocabulary once its catalog has been checked. -/
theorem exists_compileWith {question : Text} (spoken : Text.strip question ≠ [])
    (short : question.length ≤ Request.longestQuestion) {department : Value}
    (checked : checkDepartment bundled department = .ok ()) (dateRange : Option Text)
    (style : ParamStyle) :
    ∃ query : CompiledQuery, ∀ job : Job, job.question = .text question →
      job.department = department → job.dateRange = .ofOption dateRange →
        compileWith bundled style job = checkCatalog bundled job.schema >>= fun _ => .ok query := by
  obtain ⟨intent, extracted, few⟩ := Intent.exists_ofQuestion short checked dateRange
  obtain ⟨query, compiled⟩ :=
    exists_compileIntent (Intent.drawn_of_question checked extracted) few style
  refine ⟨query, fun job asked located windowed => ?_⟩
  rw [compileWith, asked, located, windowed, questionText_text spoken]
  simp only [bind, Except.bind, checked, extracted, compiled]

end Compiler

/-- The outcome of a request under the bundled vocabulary.  There is one query that every
catalog gets that lacks nothing of the contract, with or without a record of what was
extracted; another catalog is refused with the list of what it lacks.  The list exists
wherever the names of the catalog are texts. -/
theorem request_outcome {question : Text} (spoken : Text.strip question ≠ [])
    (short : question.length ≤ Request.longestQuestion) {department : Option Text}
    (known : Request.Known department) (dateRange : Option Text) {surroundings : Surroundings}
    {vocabulary : Option Vocabulary}
    (supplied : vocabulary.elim surroundings.vocabulary Except.ok = .ok bundled)
    {paramStyle : Value} {style : ParamStyle}
    (chosen : Compiler.style surroundings paramStyle = .ok style) :
    ∃ query : CompiledQuery, ∀ debug, ∃ request : Request,
      Request.read (Request.fields question department dateRange debug) = .ok request ∧
      ∀ catalog : Catalog,
        (catalog.Named → ∃ missing, catalog.missing bundled.schema = .ok missing) ∧
        Compiler.compileRequest surroundings request (.given catalog) vocabulary paramStyle =
          catalog.missing bundled.schema >>= fun missing =>
            if missing = [] then .ok query else .error (.contractViolated missing) := by
  obtain ⟨query, compiled⟩ := Compiler.exists_compileWith spoken short
    (Compiler.checkDepartment_bundled (Request.named? department)) dateRange style
  refine ⟨query, fun debug => ⟨_, Request.read_fields spoken short known dateRange debug, ?_⟩⟩
  intro catalog
  refine ⟨fun named => Catalog.exists_missing named bundled.schema, ?_⟩
  have located : ((Request.named? department).map fun code =>
      Value.text (Tagged.tag code)).getD .null =
        .ofOption ((Request.named? department).map Tagged.tag) := by
    cases Request.named? department <;> rfl
  rw [Compiler.compileRequest, Compiler.compile_eq supplied chosen,
    compiled _ rfl located rfl, Compiler.checkCatalog_given]
  cases catalog.missing bundled.schema with
  | error fault => rfl
  | ok missing => cases missing <;> rfl

/-- A catalog of the two tables of the bundled vocabulary, in capital letters. -/
def Catalog.capitals : Catalog where
  tables :=
    (Catalog.single "METRICS" ["DEPARTMENT_ID", "METRIC_NAME", "METRIC_VALUE", "METRIC_DATE",
      "MONTHLY_CHANGE_PERCENT"]).tables ++
      (Catalog.single "DEPARTMENTS" ["ID", "NAME", "CODE"]).tables

namespace Compiler

/-- Surroundings with nothing to fall back on. -/
def unaided : Surroundings where
  settings := .error .blankQuestion
  vocabulary := .error .blankQuestion

theorem request_outcome_sample :
    ∃ query : CompiledQuery, ∀ debug, ∃ request : Request,
      Request.read (Request.fields "Top 5 sales metrics" (some " HR ") (some "q4") debug) =
        .ok request ∧
      compileRequest unaided request (.given Catalog.capitals) (some bundled)
        (.text "dollar") = .ok query ∧
      compileRequest unaided request (.given {}) (some bundled) (.text "dollar") =
        .error (.contractViolated ["metrics", "departments"]) := by
  have spoken : Text.strip "Top 5 sales metrics" ≠ [] := by decide
  have short : "Top 5 sales metrics".toList.length ≤ Request.longestQuestion := by decide
  have known : Request.Known (some " HR ") := by
    rintro given ⟨⟩
    exact .inr (by decide)
  have supplied : (some bundled).elim unaided.vocabulary Except.ok = .ok bundled := rfl
  have chosen : style unaided (.text "dollar") = .ok .dollar := rfl
  have satisfied : Catalog.capitals.missing bundled.schema = .ok [] := by
    with_unfolding_all rfl
  have lacking : Catalog.missing {} bundled.schema = .ok ["metrics", "departments"] := by
    with_unfolding_all rfl
  obtain ⟨query, outcome⟩ := request_outcome spoken short known (some "q4") supplied chosen
  refine ⟨query, fun debug => ?_⟩
  obtain ⟨request, read, compared⟩ := outcome debug
  refine ⟨request, read, ?_, ?_⟩
  · rw [(compared Catalog.capitals).2, satisfied]
    rfl
  · rw [(compared {}).2, lacking]
    rfl

end Compiler

end Inquiry
