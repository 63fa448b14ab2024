import Inquiry.Proofs.Outcome
import Inquiry.Proofs.Safety.Keyword

/-!
# Findings of the safety gate

What the gate finds stands at some position of the text, and the gate has passed a statement
if it has found nothing in any of its checks.
-/

namespace Inquiry.Safety

/-- A finding was made at some position. -/
theorem exists_of_firstAt {α : Type} {probe : Option Char → Text → Option α}
    {previous : Option Char} {text : Text} {found : α}
    (success : firstAt probe previous text = some found) : ∃ before after,
      text = before ++ after ∧ probe (before.getLast?.or previous) after = some found := by
  induction text generalizing previous with
  | nil => exact ⟨[], [], rfl, success⟩
  | cons c rest ih =>
      rw [firstAt] at success
      cases here : probe previous (c :: rest) with
      | some other =>
          rw [here, Option.orElse_some] at success
          exact ⟨[], c :: rest, rfl, here.trans success⟩
      | none =>
          rw [here, Option.orElse_none] at success
          obtain ⟨before, after, parted, probed⟩ := ih success
          refine ⟨c :: before, after, by rw [parted, List.cons_append], ?_⟩
          rwa [List.getLast?_cons, Option.some_or, ← Option.or_some]

theorem exists_of_find {α : Type} {probe : Option Char → Text → Option α} {text : Text}
    {found : α} (success : find? probe text = some found) :
    ∃ before after, text = before ++ after ∧ probe before.getLast? after = some found := by
  obtain ⟨before, after, parted, probed⟩ := exists_of_firstAt success
  exact ⟨before, after, parted, by rwa [Option.or_none] at probed⟩

/-- Where a probe finds something at a position, something is found in the text. -/
theorem isSome_firstAt {α : Type} {probe : Option Char → Text → Option α}
    {previous : Option Char} {before after : Text}
    (found : (probe (before.getLast?.or previous) after).isSome = true) :
    (firstAt probe previous (before ++ after)).isSome = true := by
  induction before generalizing previous with
  | nil =>
      rw [List.getLast?_nil, Option.none_or] at found
      cases after with
      | nil => exact found
      | cons c rest =>
          obtain ⟨finding, here⟩ := Option.isSome_iff_exists.mp found
          rw [List.nil_append, firstAt, here]
          rfl
  | cons c before ih =>
      rw [List.getLast?_cons, Option.some_or, ← Option.or_some] at found
      rw [List.cons_append, firstAt]
      cases probe previous (c :: (before ++ after)) with
      | some finding => rfl
      | none => exact ih found

theorem isSome_find {α : Type} {probe : Option Char → Text → Option α} {before after : Text}
    (found : (probe before.getLast? after).isSome = true) :
    (find? probe (before ++ after)).isSome = true :=
  isSome_firstAt (by rwa [Option.or_none])

/-! ## Statements that passed -/

/-- Every check of the gate is silent about a stripped text and its parameters. -/
structure Passed (vocabulary : Vocabulary) (style : Option ParamStyle) (sql : Text)
    (parameters : List Value) : Prop where
  selects : isSelect sql = true
  separator : ';' ∉ sql
  star : selectsStar sql = false
  dangerous : dangerous? sql = none
  inlineComment : ¬"--".toList <:+: sql
  blockComment : ¬"/*".toList <:+: sql
  tables : foreignTables vocabulary.schema sql = []
  limits : limitViolations vocabulary.limits.maximum sql = .ok []
  placeholders : placeholderViolations style sql parameters = .ok []
  parameters : parameterViolations 1 parameters = []

theorem violationIf_eq_nil {found : Bool} {violation : Violation} :
    violationIf found violation = [] ↔ found = false := by
  cases found <;> simp [violationIf]

theorem passed_of_check {vocabulary : Vocabulary} {style : Option ParamStyle} {sql : Text}
    {parameters : List Value} (accepted : check vocabulary style sql parameters = .ok []) :
    Passed vocabulary style (Text.strip sql) parameters := by
  obtain ⟨limits, limitsJudged, accepted⟩ := Outcome.bind_eq_ok.mp accepted
  obtain ⟨placeholders, placeholdersJudged, accepted⟩ := Outcome.bind_eq_ok.mp accepted
  have silent := Outcome.pure_eq_ok.mp accepted
  simp only [List.append_eq_nil_iff, violationIf_eq_nil, Bool.not_eq_false',
    Option.toList_eq_nil_iff, Option.map_eq_none_iff, List.map_eq_nil_iff] at silent
  obtain ⟨⟨⟨⟨⟨⟨⟨⟨⟨selects, separator⟩, star⟩, dangerous⟩, inline⟩, block⟩, tables⟩, rfl⟩, rfl⟩,
    parameterKinds⟩ := silent
  constructor
  case selects => exact selects
  case separator => simpa using separator
  case star => exact star
  case dangerous => exact dangerous
  case inlineComment => rwa [← Text.occurs_iff, Bool.not_eq_true]
  case blockComment => rwa [← Text.occurs_iff, Bool.not_eq_true]
  case tables => exact tables
  case limits => exact limitsJudged
  case placeholders => exact placeholdersJudged
  case parameters => exact parameterKinds

/-- A text that passed has as many placeholders as parameters. -/
theorem Passed.placeholders_agree {vocabulary : Vocabulary} {style : Option ParamStyle}
    {sql : Text} {parameters : List Value} (passed : Passed vocabulary style sql parameters) :
    countPlaceholders style sql = parameters.length := by
  have judged := passed.placeholders
  by_contra differ
  rw [placeholderViolations, if_pos differ] at judged
  cases judged

end Inquiry.Safety
