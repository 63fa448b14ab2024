import Mathlib

/-!
# Lists that are split

Where two lists meet, the last part of the one and the first part of the other make one part of
the whole.
-/

namespace Inquiry

variable {α : Type} {p : α → Bool}

theorem exists_splitOnP_eq_cons (p : α → Bool) (xs : List α) :
    ∃ first rest, xs.splitOnP p = first :: rest :=
  List.exists_cons_of_ne_nil (List.splitOnP_ne_nil p xs)

theorem exists_splitOnP_eq_concat (p : α → Bool) (xs : List α) :
    ∃ front last, xs.splitOnP p = front ++ [last] :=
  (List.eq_nil_or_concat' (xs.splitOnP p)).resolve_left (List.splitOnP_ne_nil p xs)

/-- Where two lists meet, the last part of the one and the first part of the other are one. -/
theorem splitOnP_append {xs ys last first : List α} {front rest : List (List α)}
    (left : xs.splitOnP p = front ++ [last]) (right : ys.splitOnP p = first :: rest) :
    (xs ++ ys).splitOnP p = front ++ (last ++ first) :: rest := by
  induction xs generalizing front last with
  | nil =>
      rw [List.splitOnP_nil] at left
      obtain ⟨rfl, same⟩ := List.append_eq_singleton_iff.mp left.symm |>.resolve_right (by simp)
      obtain rfl := List.singleton_inj.mp same
      exact right
  | cons x xs ih =>
      obtain ⟨before, final, parted⟩ := exists_splitOnP_eq_concat p xs
      rw [List.splitOnP_cons_eq_if_modifyHead, parted] at left
      rw [List.cons_append, List.splitOnP_cons_eq_if_modifyHead, ih parted]
      split
      next separates =>
        rw [if_pos separates, ← List.cons_append] at left
        obtain ⟨rfl, same⟩ := List.append_inj' left rfl
        obtain rfl := List.singleton_inj.mp same
        rfl
      next plain =>
        rw [if_neg plain] at left
        cases before with
        | nil =>
            obtain ⟨rfl, same⟩ := List.append_eq_singleton_iff.mp left.symm
              |>.resolve_right (by simp)
            obtain rfl := List.singleton_inj.mp same
            rfl
        | cons piece before =>
            rw [List.cons_append, List.modifyHead_cons, ← List.cons_append] at left
            obtain ⟨rfl, same⟩ := List.append_inj' left rfl
            obtain rfl := List.singleton_inj.mp same
            rfl

theorem splitOnP_quiet_append {xs ys first : List α} {rest : List (List α)}
    (quiet : ∀ x ∈ xs, p x = false) (right : ys.splitOnP p = first :: rest) :
    (xs ++ ys).splitOnP p = (xs ++ first) :: rest := by
  have left : xs.splitOnP p = [] ++ [xs] := List.splitOnP_eq_singleton quiet
  exact splitOnP_append left right

theorem splitOnP_append_quiet {xs ys last : List α} {front : List (List α)}
    (left : xs.splitOnP p = front ++ [last]) (quiet : ∀ y ∈ ys, p y = false) :
    (xs ++ ys).splitOnP p = front ++ [last ++ ys] :=
  splitOnP_append left (List.splitOnP_eq_singleton quiet)

/-- There is one part more than there are ends. -/
theorem length_splitOnP (xs : List α) : (xs.splitOnP p).length = xs.countP p + 1 := by
  induction xs with
  | nil => simp
  | cons x rest ih =>
      rw [List.splitOnP_cons_eq_if_modifyHead, List.countP_cons]
      by_cases ends : p x = true
      · rw [if_pos ends, if_pos ends, List.length_cons, ih]
      · rw [if_neg ends, if_neg ends, List.length_modifyHead, ih]

/-- The parts of a list are pieces of it. -/
theorem infix_of_mem_splitOnP {xs part : List α} (member : part ∈ xs.splitOnP p) :
    part <:+: xs := by
  suffices general : ∃ first rest, xs.splitOnP p = first :: rest ∧ first <+: xs ∧
      ∀ part ∈ rest, part <:+: xs by
    obtain ⟨first, rest, parted, begins, within⟩ := general
    rw [parted] at member
    rcases List.mem_cons.mp member with rfl | later
    · exact begins.isInfix
    · exact within part later
  clear member
  induction xs with
  | nil => exact ⟨[], [], List.splitOnP_nil, List.prefix_rfl, by simp⟩
  | cons x xs ih =>
      obtain ⟨first, rest, parted, begins, within⟩ := ih
      rw [List.splitOnP_cons_eq_if_modifyHead, parted]
      split
      · refine ⟨[], first :: rest, rfl, List.nil_prefix, ?_⟩
        intro part listed
        rcases List.mem_cons.mp listed with rfl | later
        · exact List.infix_cons begins.isInfix
        · exact List.infix_cons (within part later)
      · exact ⟨x :: first, rest, rfl, (List.prefix_cons_inj x).mpr begins,
          fun part later => List.infix_cons (within part later)⟩

end Inquiry
