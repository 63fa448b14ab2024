import Inquiry.Proofs.Text.Split
import Inquiry.Text.Basic
import Mathlib

/-!
# Pieces between marks

A text is cut at every occurrence of a mark.  Texts that are joined with the mark
are cut into the pieces of each of them.
-/

namespace Inquiry.Text

variable {mark : Char} {text : Text}

theorem pieces_ne_nil (mark : Char) (text : Text) : pieces mark text ≠ [] := by
  cases text with
  | nil => simp [pieces]
  | cons c rest =>
      rw [pieces]
      split
      · simp
      · split <;> simp

theorem pieces_cons_mark (text : Text) : pieces mark (mark :: text) = [] :: pieces mark text := by
  obtain ⟨first, others, found⟩ := List.exists_cons_of_ne_nil (pieces_ne_nil mark text)
  simp [pieces, found]

/-- What stands before the first mark belongs to the first piece. -/
theorem exists_pieces_append {left : Text} (absent : mark ∉ left) (right : Text) :
    ∃ first others, pieces mark right = first :: others ∧
      pieces mark (left ++ right) = (left ++ first) :: others := by
  obtain ⟨first, others, found⟩ := List.exists_cons_of_ne_nil (pieces_ne_nil mark right)
  refine ⟨first, others, found, ?_⟩
  induction left with
  | nil => simpa using found
  | cons c rest ih =>
      have distinct : c ≠ mark := Ne.symm (List.ne_of_not_mem_cons absent)
      simp [pieces, ih (List.not_mem_of_not_mem_cons absent), distinct]

theorem pieces_of_not_mem (absent : mark ∉ text) : pieces mark text = [text] := by
  obtain ⟨first, others, empty, whole⟩ := exists_pieces_append absent []
  obtain ⟨rfl, rfl⟩ := List.cons.inj (empty.symm.trans rfl : first :: others = [[]])
  simpa using whole

/-- A text is cut at a mark. -/
theorem pieces_append_mark (left right : Text) :
    pieces mark (left ++ mark :: right) = pieces mark left ++ pieces mark right := by
  induction left with
  | nil => exact pieces_cons_mark right
  | cons c rest ih =>
      obtain ⟨first, others, found⟩ := List.exists_cons_of_ne_nil (pieces_ne_nil mark rest)
      rw [List.cons_append, pieces, ih, pieces, found]
      by_cases same : c = mark <;> simp [same]

/-- Texts that are joined with the mark are cut one by one. -/
theorem pieces_join {parts : List Text} (nonempty : parts ≠ []) :
    pieces mark (join [mark] parts) = parts.flatMap (pieces mark) := by
  induction parts with
  | nil => exact absurd rfl nonempty
  | cons first rest ih =>
      cases rest with
      | nil => simp
      | cons second others =>
          rw [join_cons_cons, List.append_assoc, List.singleton_append, pieces_append_mark,
            ih (by simp)]
          exact List.flatMap_cons.symm

theorem pieces_eq_splitOnP (mark : Char) (text : Text) :
    pieces mark text = text.splitOnP (· == mark) := by
  induction text with
  | nil => rw [pieces, List.splitOnP_nil]
  | cons c rest ih =>
      obtain ⟨first, others, found⟩ := List.exists_cons_of_ne_nil (pieces_ne_nil mark rest)
      rw [pieces, List.splitOnP_cons_eq_if_modifyHead, ← ih, found]
      simp only [beq_iff_eq]
      rfl

theorem length_pieces (mark : Char) (text : Text) :
    (pieces mark text).length = text.count mark + 1 := by
  rw [pieces_eq_splitOnP, length_splitOnP, List.count_eq_countP]

/-! ## Hanging texts -/

/-- Texts as they stand between the marks of a joined text: the first behind a lead and the
others behind an indent, and all but the last with an ending. -/
def hang (lead ending indent : Text) : List Text → List Text
  | [] => [lead]
  | [text] => [lead ++ text]
  | text :: rest => (lead ++ text ++ ending) :: hang indent ending indent rest

theorem hang_cons_cons (lead ending indent first second : Text) (rest : List Text) :
    hang lead ending indent (first :: second :: rest) =
      (lead ++ first ++ ending) :: hang indent ending indent (second :: rest) := rfl

section Hang

variable {lead ending indent : Text} {texts : List Text}

/-- Texts that are joined with a separator around the mark hang between the marks. -/
theorem pieces_hang (leads : mark ∉ lead) (ends : mark ∉ ending) (indents : mark ∉ indent)
    (plain : ∀ text ∈ texts, mark ∉ text) :
    pieces mark (lead ++ join (ending ++ mark :: indent) texts) =
      hang lead ending indent texts := by
  induction texts generalizing lead with
  | nil =>
      rw [join_nil, List.append_nil, pieces_of_not_mem leads]
      rfl
  | cons first rest ih =>
      rw [List.forall_mem_cons] at plain
      have led : mark ∉ lead ++ first := List.not_mem_append leads plain.1
      cases rest with
      | nil => exact pieces_of_not_mem led
      | cons second others =>
          have cut : lead ++ join (ending ++ mark :: indent) (first :: second :: others) =
              (lead ++ first ++ ending) ++ mark ::
                (indent ++ join (ending ++ mark :: indent) (second :: others)) := by
            simp only [join_cons_cons, List.append_assoc, List.cons_append]
          rw [cut, pieces_append_mark, pieces_of_not_mem (List.not_mem_append led ends),
            ih indents plain.2, hang_cons_cons, List.singleton_append]

theorem exists_of_mem_hang {piece : Text} (member : piece ∈ hang lead ending indent texts) :
    (∃ rest, piece = lead ++ rest) ∨ ∃ rest, piece = indent ++ rest := by
  induction texts generalizing lead with
  | nil => exact .inl ⟨[], by simpa [hang] using member⟩
  | cons first rest ih =>
      cases rest with
      | nil => exact .inl ⟨first, by simpa [hang] using member⟩
      | cons second others =>
          rcases List.mem_cons.mp member with rfl | later
          · exact .inl ⟨first ++ ending, List.append_assoc _ _ _⟩
          · exact .inr ((ih later).elim id id)

/-- Hanging texts are read one by one, whatever is read off them. -/
theorem map_hang {β : Type} {read whole : Text → β} (nonempty : texts ≠ [])
    (reads : ∀ text ∈ texts, ∀ start, start = lead ∨ start = indent →
      read (start ++ text) = whole text ∧ read (start ++ text ++ ending) = whole text) :
    (hang lead ending indent texts).map read = texts.map whole := by
  induction texts generalizing lead with
  | nil => exact absurd rfl nonempty
  | cons first rest ih =>
      rw [List.forall_mem_cons] at reads
      obtain ⟨alone, ended⟩ := reads.1 lead (.inl rfl)
      cases rest with
      | nil => rw [hang, List.map_singleton, List.map_singleton, alone]
      | cons second others =>
          have later := @ih indent (List.cons_ne_nil _ _) fun text member start same =>
            reads.2 text member start (.inr (same.elim id id))
          rw [hang_cons_cons, List.map_cons, ended, later]
          rfl

end Hang

end Inquiry.Text
