import Inquiry.Proofs.Text.Basic
import Inquiry.Text.Blank

/-!
# Lines

A text is cut into lines at its line feeds, and every newline counts for one.  What stands before
a line feed and what stands behind it are cut by themselves.

Lines also end at breaks that are no newlines.  A text without newlines therefore need not be one
line.
-/

namespace Inquiry.Text

variable {text : Text}

/-! ## Newlines -/

/-- Newlines are unified up to a line feed without regard to what stands behind it. -/
theorem exists_unifyNewlines_append_feed (text : Text) :
    ∃ front, ∀ rest,
      unifyNewlines (text ++ '\n' :: rest) = front ++ '\n' :: unifyNewlines rest := by
  induction text using unifyNewlines.induct with
  | case1 => exact ⟨[], fun rest => by simp [unifyNewlines]⟩
  | case2 others ih =>
      obtain ⟨front, unified⟩ := ih
      exact ⟨'\n' :: front, fun rest => by simp [unifyNewlines, unified]⟩
  | case3 others single ih =>
      cases others with
      | nil => exact ⟨[], fun rest => by simp [unifyNewlines]⟩
      | cons c later =>
          have other : c ≠ '\n' := fun same => single later (by rw [same])
          obtain ⟨front, unified⟩ := ih
          simp only [List.cons_append] at unified
          exact ⟨'\n' :: front, fun rest => by simp [unifyNewlines, other, unified]⟩
  | case4 c others paired returned ih =>
      have other : c ≠ '\r' := returned
      obtain ⟨front, unified⟩ := ih
      exact ⟨c :: front, fun rest => by simp [unifyNewlines, other, unified]⟩

theorem unifyNewlines_of_not_mem (absent : '\r' ∉ text) : unifyNewlines text = text := by
  induction text with
  | nil => rfl
  | cons c rest ih =>
      have other : c ≠ '\r' := (List.ne_of_not_mem_cons absent).symm
      rw [unifyNewlines]
      · rw [ih (List.not_mem_of_not_mem_cons absent)]
      · exact fun _ same => absurd same other
      · exact other

theorem blank_unifyNewlines (all : ∀ c ∈ text, isBlank c = true) :
    ∀ c ∈ unifyNewlines text, isBlank c = true := by
  have feed : isBlank '\n' = true := rfl
  induction text using unifyNewlines.induct with
  | case1 => exact all
  | case2 others ih | case3 others single ih | case4 c others paired returned ih =>
      simp_all [unifyNewlines]

/-! ## Cutting -/

theorem linesFrom_cons_break {c : Char} (ends : isLineBreak c = true) (other : c ≠ '\r')
    (line rest : Text) : linesFrom line (c :: rest) = line.reverse :: lines rest := by
  rw [linesFrom, if_pos ends, lines]
  exact fun _ same => absurd same other

theorem linesFrom_cons_of_unbroken {c : Char} (unbroken : isLineBreak c = false)
    (line rest : Text) : linesFrom line (c :: rest) = linesFrom (c :: line) rest := by
  rw [linesFrom, if_neg (by simp [unbroken])]
  rintro _ rfl
  cases unbroken

theorem linesFrom_append_feed (line text rest : Text) :
    linesFrom line (text ++ '\n' :: rest) = linesFrom line (text ++ ['\n']) ++ lines rest := by
  have feed : ∀ line rest, linesFrom line ('\n' :: rest) = line.reverse :: lines rest :=
    linesFrom_cons_break rfl (by decide)
  induction line, text using linesFrom.induct with
  | case1 line | case2 line => simp [feed, lines, linesFrom]
  | case3 line others ih => simpa [linesFrom] using ih
  | case4 line c others single ends ih =>
      by_cases returned : c = '\r'
      · subst returned
        cases others with
        | nil => simp [linesFrom, lines]
        | cons d later =>
            have other : d ≠ '\n' := fun same => single later rfl (by rw [same])
            simpa [linesFrom, ends, other] using ih
      · simpa [linesFrom_cons_break ends returned, lines] using ih
  | case5 line c others single goesOn ih =>
      simpa [linesFrom_cons_of_unbroken (Bool.eq_false_iff.mpr goesOn)] using ih

/-- A line ends at the first break. -/
theorem linesFrom_append_break {c : Char} (ends : isLineBreak c = true) (other : c ≠ '\r')
    (unbroken : ∀ d ∈ text, isLineBreak d = false) (line rest : Text) :
    linesFrom line (text ++ c :: rest) = (line.reverse ++ text) :: lines rest := by
  induction text generalizing line with
  | nil => simpa using linesFrom_cons_break ends other line rest
  | cons d later ih =>
      rw [List.forall_mem_cons] at unbroken
      rw [List.cons_append, linesFrom_cons_of_unbroken unbroken.1, ih unbroken.2]
      simp

theorem blank_linesFrom {line : Text} (begun : ∀ c ∈ line, isBlank c = true)
    (all : ∀ c ∈ text, isBlank c = true) :
    ∀ piece ∈ linesFrom line text, ∀ c ∈ piece, isBlank c = true := by
  induction line, text using linesFrom.induct with
  | case1 => simp_all [linesFrom]
  | case2 line begins => simpa [linesFrom, begins] using begun
  | case3 line others ih =>
      have later := ih (by simp) fun c member => all c (by simp [member])
      simpa [linesFrom] using ⟨begun, later⟩
  | case4 line c others single ends ih =>
      have later := ih (by simp) fun c member => all c (by simp [member])
      rw [linesFrom, if_pos ends]
      · simpa using ⟨begun, later⟩
      · exact single
  | case5 line c others single goesOn ih =>
      rw [List.forall_mem_cons] at all
      rw [linesFrom_cons_of_unbroken (Bool.eq_false_iff.mpr goesOn)]
      exact ih (List.forall_mem_cons.mpr ⟨all.1, begun⟩) all.2

/-! ## Joining -/

theorem join_append {separator : Text} {front back : List Text} (first : front ≠ [])
    (last : back ≠ []) :
    join separator (front ++ back) =
      join separator front ++ (separator ++ join separator back) := by
  obtain ⟨opening, others, rfl⟩ := List.exists_cons_of_ne_nil last
  induction front with
  | nil => exact absurd rfl first
  | cons piece rest ih =>
      cases rest with
      | nil => simp
      | cons second later =>
          have joined := ih (by simp)
          simp only [List.cons_append, join_cons_cons] at joined ⊢
          rw [joined]
          simp only [List.append_assoc]

/-- Joined lines are split one by one. -/
theorem splitOnP_join {ends : Char → Bool} (feed : ends '\n' = true) {lines : List Text}
    (nonempty : lines ≠ []) :
    (join "\n" lines).splitOnP ends = lines.flatMap (List.splitOnP ends) := by
  induction lines with
  | nil => exact absurd rfl nonempty
  | cons first rest ih =>
      cases rest with
      | nil => simp
      | cons second others =>
          have cut : join "\n" (first :: second :: others) =
              first ++ '\n' :: join "\n" (second :: others) := by simp
          rw [cut, List.splitOnP_append_cons _ _ feed, ih (by simp)]
          exact List.flatMap_cons.symm

/-- Lines that nothing ends are not split. -/
theorem flatMap_splitOnP {ends : Char → Bool} {lines : List Text}
    (whole : ∀ line ∈ lines, ∀ c ∈ line, ends c = false) :
    lines.flatMap (List.splitOnP ends) = lines :=
  calc lines.flatMap (List.splitOnP ends)
      = lines.flatMap fun line => [line] :=
        List.flatMap_congr fun line member => List.splitOnP_eq_singleton (whole line member)
    _ = lines := by simp

end Inquiry.Text
