import Inquiry.Proofs.Pattern.Piece

/-!
# Runs that patterns take

A greedy repetition of a class takes a whole run of its characters, if the rest of the pattern
matches what follows the run.
-/

namespace Inquiry.Pattern

variable {set : CharClass} {before : Text} {captures : List (Nat × Text)}
  {onward : Onward} {result : Spot}

theorem run_char {c : Char} (inside : set.holds c = true) (rest : Text) :
    run (.char set) { before, rest := c :: rest, captures } onward =
      onward { before := c :: before, rest, captures } := by
  simp only [run, inside, if_true]

/-- At the end of a run no character of its class follows. -/
theorem run_char_eq_none {rest : Text} (outside : rest.head?.any set.holds = false) :
    run (.char set) { before, rest, captures } onward = none := by
  cases rest with
  | nil => rfl
  | cons c others =>
      have foreign : set.holds c = false := outside
      simp [run, foreign]

/-- More rounds take the rest of a run. -/
theorem more_char {taken after : Text} {fuel : Nat} {last : Option Nat}
    (inside : ∀ c ∈ taken, set.holds c = true) (outside : after.head?.any set.holds = false)
    (enough : taken.length ≤ fuel) (fresh : last ≠ some (taken ++ after).length)
    (goes : onward { before := taken.reverse ++ before, rest := after, captures } =
      some result) :
    more (run (.char set)) false fuel none last { before, rest := taken ++ after, captures }
      onward = some result := by
  induction taken generalizing before fuel last with
  | nil =>
      rw [List.reverse_nil, List.nil_append] at goes
      cases fuel with
      | zero => exact goes
      | succ fuel => simp [more, run_char_eq_none outside, goes]
  | cons c taken ih =>
      obtain ⟨fuel, rfl⟩ : ∃ more, fuel = more + 1 :=
        Nat.exists_eq_add_one_of_ne_zero (by rintro rfl; simp at enough)
      rw [List.forall_mem_cons] at inside
      rw [List.reverse_cons, List.append_assoc, List.singleton_append] at goes
      have renewed : some (c :: (taken ++ after)).length ≠ some (taken ++ after).length := by simp
      have later := ih inside.2 (Nat.le_of_succ_le_succ enough) renewed goes
      have unmet : last ≠ some (c :: (taken ++ after)).length := fresh
      simp only [more, List.cons_append, reduceCtorEq, false_or, if_neg unmet,
        Bool.false_eq_true, if_false, run_char inside.1, Option.map_none, later,
        Option.orElse_some]

/-- A repetition takes a whole run, if the match goes on behind it. -/
theorem run_repeated_char {taken after : Text} (nonempty : taken ≠ [])
    (inside : ∀ c ∈ taken, set.holds c = true) (outside : after.head?.any set.holds = false)
    (goes : onward { before := taken.reverse ++ before, rest := after, captures } =
      some result) :
    run (.repeated (.char set) 1 none false) { before, rest := taken ++ after, captures }
      onward = some result := by
  obtain ⟨c, others, rfl⟩ := List.exists_cons_of_ne_nil nonempty
  rw [List.forall_mem_cons] at inside
  rw [List.reverse_cons, List.append_assoc, List.singleton_append] at goes
  rw [run, times, List.cons_append, run_char inside.1]
  exact more_char inside.2 outside (by simp; omega) (by simp) goes

/-- Of several patterns the first one that matches decides. -/
theorem run_oneOf_of_some {first : Pattern} {others : List Pattern} {spot : Spot}
    (found : run first spot onward = some result) :
    run (oneOf (first :: others)) spot onward = some result := by
  cases others with
  | nil => exact found
  | cons second others => simp only [oneOf, run, found, Option.orElse_some]

theorem run_oneOf_of_none {first : Pattern} {others : List Pattern} {spot : Spot}
    (more : others ≠ []) (misses : run first spot onward = none) :
    run (oneOf (first :: others)) spot onward = run (oneOf others) spot onward := by
  cases others with
  | nil => exact absurd rfl more
  | cons second others => simp only [oneOf, run, misses, Option.orElse_none]

/-- A word is matched character by character. -/
theorem run_spelling (word : Text) (behind : List Pattern) (rest : Text) :
    run (.inOrder (Vocabulary.spelling word ++ behind))
        { before, rest := word ++ rest, captures } onward =
      run (.inOrder behind)
        { before := word.reverse ++ before, rest, captures } onward := by
  induction word generalizing before with
  | nil => rfl
  | cons c word ih =>
      have step := run_inOrder_cons (.char (.single c.toNat)) (Vocabulary.spelling word ++ behind)
        { before, rest := c :: (word ++ rest), captures } onward
      rw [run_char (holds_single.mpr rfl), ih] at step
      rw [List.reverse_cons, List.append_assoc, List.singleton_append]
      exact step

end Inquiry.Pattern
