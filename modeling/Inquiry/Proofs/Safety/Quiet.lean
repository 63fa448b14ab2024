import Inquiry.Proofs.Decimal.Integer
import Inquiry.Proofs.Safety.Keyword
import Inquiry.Proofs.Statement.Piecewise

/-!
# Quiet statements

The safety gate listens for separators, stars, comment marks and keywords.  None
of them contains a gap, so they are listened for between the gaps, and a
statement is quiet when its names, predicates and placeholders are.
-/

namespace Inquiry.Safety

open Statement (isGap)

/-- A part of a statement without separators, stars, comment marks and keywords. -/
def isQuiet (keywords : List Text) (token : Text) : Bool :=
  !token.contains ';' && !token.contains '*' && !Text.occurs "--" token &&
    (keywordsIn keywords token).isEmpty

/-- The parts of a statement that are not quiet. -/
def alarms (keywords : List Text) (text : Text) : List Text :=
  (Text.runs (fun c => !isGap c) text).filter fun token => !isQuiet keywords token

theorem piecewise_keywordsIn (keywords : List Text) : Piecewise (keywordsIn keywords) := by
  have outside : ∀ gap, isGap gap = true → Text.isWord gap = false :=
    Statement.outside_of_gaps (by decide)
  exact (Piecewise.of_runs outside).filter _

theorem piecewise_alarms (keywords : List Text) : Piecewise (alarms keywords) :=
  (Piecewise.of_runs fun gap member => by simp [member]).filter _

variable {keywords : List Text} {text : Text}

theorem isQuiet_of_mem (silent : alarms keywords text = []) {token : Text}
    (member : token ∈ Text.runs (fun c => !isGap c) text) : isQuiet keywords token = true := by
  simpa using List.filter_eq_nil_iff.mp silent token member

/-- What no quiet part holds does not occur in a quiet text. -/
theorem not_infix_of_silent (silent : alarms keywords text = []) (piece : Text)
    (nonempty : piece ≠ []) (solid : ∀ c ∈ piece, isGap c = false)
    (loud : ∀ token, piece <:+: token → isQuiet keywords token = false) :
    ¬ piece <:+: text := by
  intro within
  obtain ⟨token, member, holds⟩ : ∃ token ∈ Text.runs (fun c => !isGap c) text, piece <:+: token :=
    Text.exists_run_of_infix nonempty (fun c here => by simp [solid c here]) within
  have quiet := isQuiet_of_mem silent member
  rw [loud token holds] at quiet
  exact absurd quiet Bool.false_ne_true

/-- A quiet text has no separators, no stars and no comment marks. -/
theorem marks_of_silent (silent : alarms keywords text = []) :
    ';' ∉ text ∧ '*' ∉ text ∧ ¬ "--".toList <:+: text := by
  refine ⟨fun member => ?_, fun member => ?_, ?_⟩
  · refine not_infix_of_silent silent [';'] (by simp) (Text.forall_not_of_all (by decide)) ?_
      ((List.singleton_infix_iff _ _).mpr member)
    intro token within
    simp [isQuiet, within.subset (List.mem_singleton_self ';')]
  · refine not_infix_of_silent silent ['*'] (by simp) (Text.forall_not_of_all (by decide)) ?_
      ((List.singleton_infix_iff _ _).mpr member)
    intro token within
    simp [isQuiet, within.subset (List.mem_singleton_self '*')]
  · apply not_infix_of_silent silent "--" (by decide) (Text.forall_not_of_all (by decide))
    intro token within
    rw [isQuiet, Text.occurs_iff.mpr within]
    simp

theorem keywordsIn_of_silent (silent : alarms keywords text = []) :
    keywordsIn keywords text = [] := by
  rw [← (piecewise_keywordsIn keywords).flatMap_tokens text, List.flatMap_eq_nil_iff]
  intro token member
  have quiet := isQuiet_of_mem silent member
  simp only [isQuiet, Bool.and_eq_true, List.isEmpty_iff] at quiet
  exact quiet.2

theorem keywordsIn_of_subset {more : List Text} (fewer : keywords ⊆ more)
    (none : keywordsIn more text = []) : keywordsIn keywords text = [] := by
  rw [keywordsIn, List.filter_eq_nil_iff] at none ⊢
  intro word member spelled
  obtain ⟨keyword, listed, same⟩ := List.any_eq_true.mp spelled
  exact none word member (List.any_eq_true.mpr ⟨keyword, fewer listed, same⟩)

theorem isQuiet_of_subset {more : List Text} (fewer : keywords ⊆ more) {token : Text}
    (quiet : isQuiet more token = true) : isQuiet keywords token = true := by
  simp only [isQuiet, Bool.and_eq_true, List.isEmpty_iff] at quiet ⊢
  exact ⟨quiet.1, keywordsIn_of_subset fewer quiet.2⟩

/-- A text that is quiet for some keywords is quiet for fewer. -/
theorem alarms_of_subset {more : List Text} (fewer : keywords ⊆ more)
    (silent : alarms more text = []) : alarms keywords text = [] := by
  apply List.filter_eq_nil_iff.mpr
  intro token member
  simpa using isQuiet_of_subset fewer (isQuiet_of_mem silent member)

/-! ## Placeholders and numbers -/

/-- Keywords that are written in capital letters. -/
def Capital (keywords : List Text) : Prop :=
  ∀ keyword ∈ keywords, keyword ≠ [] ∧ ∀ letter ∈ keyword, letter.isUpper = true

theorem spells_eq_false (capital : Capital keywords) {word : Text}
    (marks : ∀ c ∈ word, c = '$' ∨ c = '?' ∨ c.isDigit = true) :
    spells keywords word = false := by
  by_contra spelled
  obtain ⟨keyword, member, success⟩ :=
    List.any_eq_true.mp ((Bool.not_eq_false _).mp spelled)
  obtain ⟨nonempty, capitals⟩ := capital keyword member
  match keyword, word with
  | [], _ => exact nonempty rfl
  | letter :: keyword, [] => simp [spelled?] at success
  | letter :: keyword, c :: word =>
      have upper := capitals letter (by simp)
      by_cases same : isCaseOf letter c = true
      · have worded := isWord_of_isCaseOf upper same
        have undigited := isDigit_of_isCaseOf upper same
        rcases marks c (by simp) with rfl | rfl | digit
        · exact absurd worded (by decide)
        · exact absurd worded (by decide)
        · rw [undigited] at digit
          exact absurd digit Bool.false_ne_true
      · simp [spelled?, same] at success

theorem isQuiet_of_marks (capital : Capital keywords) {token : Text}
    (marks : ∀ c ∈ token, c = '$' ∨ c = '?' ∨ c.isDigit = true) :
    isQuiet keywords token = true := by
  have absent : ∀ c, c ≠ '$' → c ≠ '?' → c.isDigit = false → c ∉ token := by
    intro c dollar question digit member
    rcases marks c member with same | same | same
    · exact dollar same
    · exact question same
    · rw [digit] at same
      exact absurd same Bool.false_ne_true
  have separator : ';' ∉ token := absent ';' (by decide) (by decide) (by decide)
  have star : '*' ∉ token := absent '*' (by decide) (by decide) (by decide)
  have dashes : Text.occurs "--" token = false := by
    by_contra within
    have found := Text.occurs_iff.mp ((Bool.not_eq_false _).mp within)
    exact absent '-' (by decide) (by decide) (by decide) (found.subset (by decide))
  have silent : keywordsIn keywords token = [] := by
    apply List.filter_eq_nil_iff.mpr
    intro word member
    have part := Text.infix_of_mem_runs member
    simp [spells_eq_false capital fun c here => marks c (part.subset here)]
  simp only [isQuiet, List.contains_eq_mem, separator, star, dashes, silent, decide_false,
    Bool.not_false, Bool.and_true, List.isEmpty_nil]

theorem alarms_of_marks (capital : Capital keywords)
    (marks : ∀ c ∈ text, c = '$' ∨ c = '?' ∨ c.isDigit = true) :
    alarms keywords text = [] := by
  apply List.filter_eq_nil_iff.mpr
  intro token member
  have part := Text.infix_of_mem_runs member
  simp [isQuiet_of_marks capital fun c here => marks c (part.subset here)]

theorem alarms_ofNat (capital : Capital keywords) (n : Nat) :
    alarms keywords (Decimal.ofNat n) = [] :=
  alarms_of_marks capital fun _ member => .inr (.inr (Decimal.isDigit_of_mem_ofNat member))

theorem marks_placeholder (style : ParamStyle) (position : Nat) :
    ∀ c ∈ style.placeholder position, c = '$' ∨ c = '?' ∨ c.isDigit = true := by
  intro c member
  cases style with
  | dollar =>
      rcases List.mem_cons.mp member with rfl | digit
      · exact .inl rfl
      · exact .inr (.inr (Decimal.isDigit_of_mem_ofNat digit))
  | qmark => exact .inr (.inl (List.mem_singleton.mp member))

theorem alarms_placeholder (capital : Capital keywords) (style : ParamStyle)
    (position : Nat) : alarms keywords (style.placeholder position) = [] :=
  alarms_of_marks capital (marks_placeholder style position)

/-! ## The keywords of the gate -/

/-- All keywords that the gate looks for. -/
def gateKeywords : List Text :=
  limitKeyword :: dangerousKeywords

theorem capital_gateKeywords : Capital gateKeywords := by
  unfold Capital
  simp only [← List.all_eq_true]
  decide

theorem reading_alarms : Statement.Reading (alarms gateKeywords) where
  toPiecewise := piecewise_alarms gateKeywords
  silent := by decide +kernel

end Inquiry.Safety
