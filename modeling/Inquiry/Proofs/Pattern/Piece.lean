import Inquiry.Pattern.Matcher
import Inquiry.Vocabulary.Bundled
import Mathlib

/-!
# Pieces that patterns match

A pattern matches a piece of the text and hands on what is left of it.  What the piece looks like
follows from the parts of the pattern, whichever of its matches comes first.
-/

namespace Inquiry.Pattern

/-- Between a spot and the one that is handed on stands a piece of a certain form. -/
def Takes (body : Spot → Onward → Option Spot) (form : Text → Prop) : Prop :=
  ∀ spot onward result, body spot onward = some result →
    ∃ piece next, spot.rest = piece ++ next.rest ∧ form piece ∧ onward next = some result

/-- Patterns in order are matched one after the other. -/
theorem run_inOrder_cons (first : Pattern) (rest : List Pattern) (spot : Spot)
    (onward : Onward) :
    run (inOrder (first :: rest)) spot onward =
      run first spot fun next => run (inOrder rest) next onward := by
  cases rest <;> rfl

theorem takes_nil : Takes (run (inOrder [])) (· = []) := by
  intro spot onward result found
  exact ⟨[], spot, rfl, rfl, found⟩

theorem takes_char (set : CharClass) :
    Takes (run (.char set)) fun piece => ∃ c, set.holds c = true ∧ piece = [c] := by
  intro spot onward result found
  rw [run] at found
  split at found
  · cases found
  next c rest remaining =>
    split at found
    next inside =>
      exact ⟨[c], { spot with before := c :: spot.before, rest }, remaining, ⟨c, inside, rfl⟩,
        found⟩
    · cases found

namespace Takes

variable {form other : Text → Prop} {body : Pattern}

theorem group (takes : Takes (run body) form) (index : Nat) :
    Takes (run (.group index body)) form := by
  intro spot onward result found
  obtain ⟨piece, next, whole, formed, later⟩ := takes spot _ result found
  exact ⟨piece, { next with captures := (index, _) :: next.captures }, whole, formed, later⟩

theorem inOrder_cons {rest : List Pattern} (here : Takes (run body) form)
    (later : Takes (run (inOrder rest)) other) :
    Takes (run (inOrder (body :: rest)))
      fun piece => ∃ front back, form front ∧ other back ∧ piece = front ++ back := by
  intro spot onward result found
  rw [run_inOrder_cons] at found
  obtain ⟨front, middle, parted, formed, found⟩ := here spot _ result found
  obtain ⟨back, next, remaining, behind, found⟩ := later middle onward result found
  refine ⟨front ++ back, next, ?_, ⟨front, back, formed, behind, rfl⟩, found⟩
  rw [parted, remaining, List.append_assoc]

theorem oneOf {patterns : List Pattern} (nonempty : patterns ≠ [])
    (all : ∀ pattern ∈ patterns, Takes (run pattern) form) :
    Takes (run (Pattern.oneOf patterns)) form := by
  induction patterns with
  | nil => exact absurd rfl nonempty
  | cons first rest ih =>
      rw [List.forall_mem_cons] at all
      cases rest with
      | nil => exact all.1
      | cons second others =>
          intro spot onward result found
          rcases (Option.orElse_eq_some _ _ _).mp found with here | ⟨-, there⟩
          · exact all.1 spot onward result here
          · exact ih (List.cons_ne_nil _ _) all.2 spot onward result there

end Takes

/-- More rounds take more characters of the class. -/
theorem takes_more (set : CharClass) (lazy : Bool) (fuel : Nat) (most last : Option Nat) :
    Takes (more (run (.char set)) lazy fuel most last)
      fun piece => ∀ c ∈ piece, set.holds c = true := by
  induction fuel generalizing most last with
  | zero =>
      intro spot onward result found
      exact ⟨[], spot, rfl, by simp, found⟩
  | succ fuel ih =>
      intro spot onward result found
      have here : onward spot = some result →
          ∃ piece next, spot.rest = piece ++ next.rest ∧ (∀ c ∈ piece, set.holds c = true) ∧
            onward next = some result :=
        fun success => ⟨[], spot, rfl, by simp, success⟩
      have again : (if most = some 0 ∨ last = some spot.rest.length then none
          else run (.char set) spot fun next => more (run (.char set)) lazy fuel
            (most.map (· - 1)) (some spot.rest.length) next onward) = some result →
          ∃ piece next, spot.rest = piece ++ next.rest ∧ (∀ c ∈ piece, set.holds c = true) ∧
            onward next = some result := by
        intro round
        split at round
        · cases round
        · obtain ⟨_, middle, parted, ⟨c, inside, rfl⟩, later⟩ := takes_char set spot _ result round
          obtain ⟨piece, next, remaining, all, success⟩ := ih _ _ middle onward result later
          refine ⟨c :: piece, next, ?_, List.forall_mem_cons.mpr ⟨inside, all⟩, success⟩
          rw [parted, remaining]
          rfl
      rw [more] at found
      split at found
      · rcases (Option.orElse_eq_some _ _ _).mp found with stopped | ⟨-, round⟩
        · exact here stopped
        · exact again round
      · rcases (Option.orElse_eq_some _ _ _).mp found with round | ⟨-, stopped⟩
        · exact again round
        · exact here stopped

/-- One character of a class or more. -/
theorem takes_repeated_char (set : CharClass) :
    Takes (run (.repeated (.char set) 1 none false))
      fun piece => piece ≠ [] ∧ ∀ c ∈ piece, set.holds c = true := by
  intro spot onward result found
  rw [run, times] at found
  obtain ⟨_, middle, parted, ⟨c, inside, rfl⟩, found⟩ := takes_char set spot _ result found
  obtain ⟨piece, next, remaining, all, success⟩ := takes_more set _ _ _ _ middle onward result found
  refine ⟨c :: piece, next, ?_, ⟨List.cons_ne_nil _ _, List.forall_mem_cons.mpr ⟨inside, all⟩⟩,
    success⟩
  rw [parted, remaining]
  rfl

theorem holds_single {c d : Char} : (CharClass.single c.toNat).holds d = true ↔ d = c := by
  simp only [CharClass.single, CharClass.holds, ClassItem.holds, Manner.variants]
  rw [← Char.toNat_inj]
  simp
  omega

/-- A word, and what is matched behind it. -/
theorem takes_spelling (word : Text) {behind : List Pattern} {form : Text → Prop}
    (takes : Takes (run (inOrder behind)) form) :
    Takes (run (inOrder (Vocabulary.spelling word ++ behind)))
      fun piece => ∃ tail, form tail ∧ piece = word ++ tail := by
  induction word with
  | nil =>
      intro spot onward result found
      obtain ⟨piece, next, whole, formed, success⟩ := takes spot onward result found
      exact ⟨piece, next, whole, ⟨piece, formed, rfl⟩, success⟩
  | cons c word ih =>
      intro spot onward result found
      obtain ⟨_, next, whole, ⟨_, _, ⟨d, same, rfl⟩, ⟨tail, formed, rfl⟩, rfl⟩, success⟩ :=
        (takes_char (.single c.toNat)).inOrder_cons ih spot onward result found
      rw [holds_single.mp same] at whole
      exact ⟨_, next, whole, ⟨tail, formed, rfl⟩, success⟩

theorem takes_word (word : Text) :
    Takes (run (inOrder (Vocabulary.spelling word))) (· = word) := by
  intro spot onward result found
  rw [← List.append_nil (Vocabulary.spelling word)] at found
  obtain ⟨_, next, whole, ⟨_, rfl, rfl⟩, success⟩ :=
    takes_spelling word takes_nil spot onward result found
  exact ⟨_, next, whole, List.append_nil word, success⟩

end Inquiry.Pattern
