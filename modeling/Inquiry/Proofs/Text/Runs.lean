import Inquiry.Text.Basic
import Mathlib

/-!
# Runs of characters

A run is a longest unbroken piece of a text whose characters belong to one
class.  Words are the runs of word characters, and tokens of a statement are the
runs of characters that are no gaps.

A text falls apart at every character outside the class, so what is known of the
parts is known of the whole.
-/

namespace Inquiry.Text

/-- The runs of a class in a text, in order. -/
def runs (inClass : Char → Bool) (text : Text) : List Text :=
  (text.splitOnP fun c => !inClass c).filter fun piece => !piece.isEmpty

variable {inClass : Char → Bool}

@[simp] theorem runs_nil : runs inClass [] = [] := by
  simp [runs]

/-- No run reaches across a character outside the class. -/
theorem runs_append_cons {c : Char} (outside : inClass c = false)
    (left right : Text) :
    runs inClass (left ++ c :: right) =
      runs inClass left ++ runs inClass right := by
  rw [runs, List.splitOnP_append_cons left right (by simp [outside]),
    List.filter_append]
  rfl

theorem runs_cons {c : Char} (outside : inClass c = false) (right : Text) :
    runs inClass (c :: right) = runs inClass right := by
  simpa using runs_append_cons outside [] right

theorem runs_concat {c : Char} (outside : inClass c = false) (left : Text) :
    runs inClass (left ++ [c]) = runs inClass left := by
  simpa using runs_append_cons outside left []

/-- A text inside the class is one run. -/
theorem runs_eq_singleton {piece : Text} (nonempty : piece ≠ [])
    (inside : ∀ c ∈ piece, inClass c = true) : runs inClass piece = [piece] := by
  have whole : piece.splitOnP (fun c => !inClass c) = [piece] := by
    apply List.splitOnP_eq_singleton
    intro c member
    simp [inside c member]
  simp [runs, whole, nonempty]

/-- The first text ends, or the second begins, outside the class. -/
def Apart (inClass : Char → Bool) (left right : Text) : Prop :=
  left.getLast?.any inClass = false ∨ right.head?.any inClass = false

theorem runs_append {left right : Text} (apart : Apart inClass left right) :
    runs inClass (left ++ right) = runs inClass left ++ runs inClass right := by
  rcases apart with ends | begins
  · rcases List.eq_nil_or_concat' left with rfl | ⟨front, c, rfl⟩
    · simp
    · have outside : inClass c = false := by simpa using ends
      rw [List.append_assoc, List.singleton_append, runs_append_cons outside,
        runs_concat outside]
  · cases right with
    | nil => simp
    | cons c rest =>
        have outside : inClass c = false := by simpa using begins
        rw [runs_append_cons outside, runs_cons outside]

/-- A piece inside the class, with nothing of the class behind it, is what can be taken off the
front of a text. -/
theorem span_append {piece rest : Text} (inside : ∀ c ∈ piece, inClass c = true)
    (ends : rest.head?.any inClass = false) :
    (piece ++ rest).takeWhile inClass = piece ∧ (piece ++ rest).dropWhile inClass = rest := by
  rw [List.takeWhile_append_of_pos inside, List.dropWhile_append_of_pos inside]
  cases rest with
  | nil => simp
  | cons c rest =>
      have outside : inClass c = false := by simpa using ends
      simp [outside]

theorem head?_dropWhile (text : Text) : (text.dropWhile inClass).head?.any inClass = false := by
  have first := List.head?_dropWhile_not inClass text
  cases found : (text.dropWhile inClass).head? with
  | none => rfl
  | some c => simpa [found] using first

/-- A text with no character of the class neither begins nor ends with one. -/
theorem head?_of_outside {text : Text} (outside : ∀ c ∈ text, inClass c = false) :
    text.head?.any inClass = false := by
  cases found : text.head? with
  | none => rfl
  | some c => exact outside c (List.mem_of_head? found)

theorem getLast?_of_outside {text : Text} (outside : ∀ c ∈ text, inClass c = false) :
    text.getLast?.any inClass = false := by
  cases found : text.getLast? with
  | none => rfl
  | some c => exact outside c (List.mem_of_getLast? found)

/-- A text that begins inside the class begins with its first run. -/
theorem head?_runs {text : Text} (begins : text.head?.any inClass = true) :
    (runs inClass text).head? = some (text.takeWhile inClass) := by
  have nonempty : text.takeWhile inClass ≠ [] := by
    cases text with
    | nil => simp at begins
    | cons c rest => simp [show inClass c = true by simpa using begins]
  have parted : Apart inClass (text.takeWhile inClass) (text.dropWhile inClass) :=
    .inr (head?_dropWhile text)
  conv => lhs; rw [← List.takeWhile_append_dropWhile (p := inClass) (l := text)]
  rw [runs_append parted, runs_eq_singleton nonempty fun c => List.mem_takeWhile_imp,
    List.singleton_append, List.head?_cons]

/-- A piece inside the class, with nothing of the class next to it, is a run. -/
theorem mem_runs {before piece after : Text} (nonempty : piece ≠ [])
    (inside : ∀ c ∈ piece, inClass c = true)
    (starts : before.getLast?.any inClass = false)
    (ends : after.head?.any inClass = false) :
    piece ∈ runs inClass (before ++ (piece ++ after)) := by
  rw [runs_append (.inl starts), runs_append (.inr ends),
    runs_eq_singleton nonempty inside]
  simp

/-- A text is a single piece of the class, or falls apart behind such a piece. -/
theorem runs_induction (inClass : Char → Bool) {motive : Text → Prop}
    (whole : ∀ piece : Text, (∀ c ∈ piece, inClass c = true) → motive piece)
    (cut : ∀ (piece : Text) (c : Char) (rest : Text),
      (∀ c ∈ piece, inClass c = true) → inClass c = false → motive rest →
        motive (piece ++ c :: rest)) (text : Text) : motive text := by
  -- The text is read through once; `piece` is what the current run holds so far.
  suffices general : ∀ piece : Text, (∀ c ∈ piece, inClass c = true) →
      motive (piece ++ text) by
    simpa using general [] (by simp)
  induction text with
  | nil =>
      intro piece inside
      simpa using whole piece inside
  | cons c rest ih =>
      intro piece inside
      cases member : inClass c with
      | true =>
          have longer : ∀ d ∈ piece ++ [c], inClass d = true := by
            intro d found
            rcases List.mem_append.mp found with old | new
            · exact inside d old
            · rw [List.mem_singleton.mp new, member]
          simpa using ih (piece ++ [c]) longer
      | false =>
          exact cut piece c rest inside member (by simpa using ih [] (by simp))

/-- A piece without the character lies on one side of it. -/
theorem infix_append_cons {piece left right : Text} {c : Char} (absent : c ∉ piece)
    (nonempty : piece ≠ []) (within : piece <:+: left ++ c :: right) :
    piece <:+: left ∨ piece <:+: right := by
  obtain ⟨before, after, whole⟩ := within
  rw [List.append_assoc, List.append_eq_append_iff] at whole
  rcases whole with ⟨middle, rfl, whole⟩ | ⟨middle, rfl, whole⟩
  · rcases List.append_eq_append_iff.mp whole with ⟨rest, rfl, -⟩ | ⟨rest, rfl, parted⟩
    · exact .inl ⟨before, rest, by simp⟩
    · cases rest with
      | nil => exact .inl ⟨before, [], by simp⟩
      | cons d rest =>
          obtain ⟨rfl, -⟩ := List.cons.inj parted
          simp at absent
  · cases middle with
    | nil =>
        cases piece with
        | nil => exact absurd rfl nonempty
        | cons d piece =>
            obtain ⟨rfl, -⟩ := List.cons.inj whole
            simp at absent
    | cons d middle =>
        obtain ⟨-, rfl⟩ := List.cons.inj whole
        exact .inr ⟨middle, after, by simp⟩

/-- An unbroken piece of the class lies in some run. -/
theorem exists_run_of_infix {piece text : Text} (nonempty : piece ≠ [])
    (inside : ∀ c ∈ piece, inClass c = true) (within : piece <:+: text) :
    ∃ run ∈ runs inClass text, piece <:+: run := by
  induction text using runs_induction inClass with
  | whole text all =>
      have inhabited : text ≠ [] := by
        rintro rfl
        exact nonempty (List.infix_nil.mp within)
      exact ⟨text, by simp [runs_eq_singleton inhabited all], within⟩
  | cut first c rest all outside ih =>
      rw [runs_append_cons outside]
      have absent : c ∉ piece := by
        intro member
        simp [inside c member] at outside
      rcases infix_append_cons absent nonempty within with here | later
      · have inhabited : first ≠ [] := by
          rintro rfl
          exact nonempty (List.infix_nil.mp here)
        exact ⟨first, by simp [runs_eq_singleton inhabited all], here⟩
      · obtain ⟨run, found, holds⟩ := ih later
        exact ⟨run, List.mem_append.mpr (.inr found), holds⟩

/-- A run is a piece of the text. -/
theorem infix_of_mem_runs {text run : Text} (member : run ∈ runs inClass text) :
    run <:+: text := by
  induction text using runs_induction inClass with
  | whole text all =>
      by_cases empty : text = []
      · simp [empty] at member
      · simp [runs_eq_singleton empty all] at member
        simp [member]
  | cut first c rest all outside ih =>
      rw [runs_append_cons outside] at member
      rcases List.mem_append.mp member with here | later
      · by_cases empty : first = []
        · simp [empty] at here
        · rw [runs_eq_singleton empty all, List.mem_singleton] at here
          exact here ▸ (List.prefix_append first (c :: rest)).isInfix
      · exact (ih later).trans (List.suffix_append_of_suffix (List.suffix_cons c rest)).isInfix

end Inquiry.Text
