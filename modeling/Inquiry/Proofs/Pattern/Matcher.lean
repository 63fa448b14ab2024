import Inquiry.Pattern.Matcher
import Mathlib

/-!
# Matches stay within the text

Whatever a pattern is, a match moves about in the text and captures pieces of it.
So a property of spots that moving and capturing keep holds of every spot that a
match hands on, and captured texts are no longer than the text.
-/

namespace Inquiry.Pattern

/-- The text around a spot and what was captured in it is no longer than a bound. -/
structure Spot.Within (bound : Nat) (spot : Spot) : Prop where
  text : spot.before.length + spot.rest.length ≤ bound
  captures : ∀ capture ∈ spot.captures, capture.2.length ≤ bound

namespace Spot.Within

variable {bound : Nat} {spot next : Spot}

theorem move (within : spot.Within bound) {before rest : Text}
    (same : before.length + rest.length = spot.before.length + spot.rest.length) :
    ({ spot with before, rest } : Spot).Within bound :=
  ⟨same.le.trans within.text, within.captures⟩

theorem passOver? {manner : Manner} {taken : Text} (within : spot.Within bound)
    (found : spot.passOver? manner taken = some next) : next.Within bound := by
  induction taken generalizing spot with
  | nil => exact Option.some.inj found ▸ within
  | cons c taken ih =>
      rw [Spot.passOver?] at found
      split at found
      · cases found
      next d rest remaining =>
        split at found
        · refine ih (within.move ?_) found
          rw [remaining, List.length_cons, List.length_cons]
          omega
        · cases found

theorem back? {count : Nat} (within : spot.Within bound)
    (found : spot.back? count = some next) : next.Within bound := by
  induction count generalizing spot with
  | zero => exact Option.some.inj found ▸ within
  | succ count ih =>
      rw [Spot.back?] at found
      split at found
      · cases found
      next c before preceding =>
        refine ih (within.move ?_) found
        rw [preceding, List.length_cons, List.length_cons]
        omega

end Spot.Within

/-- A result of the body is a result of the rest of the match, at a spot within the bound. -/
def HandsOn (bound : Nat) (body : Spot → Onward → Option Spot) : Prop :=
  ∀ spot onward result, spot.Within bound → body spot onward = some result →
    ∃ next, next.Within bound ∧ onward next = some result

namespace HandsOn

variable {bound : Nat} {body : Spot → Onward → Option Spot}

theorem times (hands : HandsOn bound body) (count : Nat) :
    HandsOn bound (Pattern.times body count) := by
  induction count with
  | zero =>
      intro spot onward result within found
      exact ⟨spot, within, found⟩
  | succ count ih =>
      intro spot onward result within found
      obtain ⟨next, nextWithin, later⟩ := hands spot _ result within found
      exact ih next onward result nextWithin later

theorem more (hands : HandsOn bound body) (lazy : Bool) (fuel : Nat) (most last : Option Nat) :
    HandsOn bound (Pattern.more body lazy fuel most last) := by
  induction fuel generalizing most last with
  | zero =>
      intro spot onward result within found
      exact ⟨spot, within, found⟩
  | succ fuel ih =>
      intro spot onward result within found
      -- Either the rest of the match goes on from here, or it does after one round more.
      have again : (if most = some 0 ∨ last = some spot.rest.length then none
          else body spot fun next => Pattern.more body lazy fuel (most.map (· - 1))
            (some spot.rest.length) next onward) = some result →
          ∃ next, next.Within bound ∧ onward next = some result := by
        intro round
        split at round
        · cases round
        · obtain ⟨next, nextWithin, later⟩ := hands spot _ result within round
          exact ih _ _ next onward result nextWithin later
      rw [Pattern.more] at found
      split at found
      · rcases (Option.orElse_eq_some _ _ _).mp found with here | ⟨-, round⟩
        · exact ⟨spot, within, here⟩
        · exact again round
      · rcases (Option.orElse_eq_some _ _ _).mp found with round | ⟨-, here⟩
        · exact again round
        · exact ⟨spot, within, here⟩

end HandsOn

/-- A match of its own ends within the bound. -/
theorem within_of_run {bound : Nat} {body : Spot → Onward → Option Spot}
    (hands : HandsOn bound body) {spot found : Spot} (within : spot.Within bound)
    (matched : body spot some = some found) : found.Within bound := by
  obtain ⟨next, nextWithin, same⟩ := hands spot some found within matched
  exact Option.some.inj same ▸ nextWithin

/-- Every pattern hands on spots within the bound alone. -/
theorem handsOn_run (bound : Nat) (pattern : Pattern) : HandsOn bound pattern.run := by
  induction pattern with
  | empty =>
      intro spot onward result within found
      exact ⟨spot, within, found⟩
  | char set =>
      intro spot onward result within found
      rw [run] at found
      split at found
      · cases found
      next c rest remaining =>
        split at found
        · refine ⟨{ spot with before := c :: spot.before, rest }, within.move ?_, found⟩
          rw [remaining, List.length_cons, List.length_cons]
          omega
        · cases found
  | anchor condition =>
      intro spot onward result within found
      rw [run] at found
      split at found
      · exact ⟨spot, within, found⟩
      · cases found
  | sequence first second firstHands secondHands =>
      intro spot onward result within found
      obtain ⟨next, nextWithin, later⟩ := firstHands spot _ result within found
      exact secondHands next onward result nextWithin later
  | choice first second firstHands secondHands =>
      intro spot onward result within found
      rcases (Option.orElse_eq_some _ _ _).mp found with here | ⟨-, there⟩
      · exact firstHands spot onward result within here
      · exact secondHands spot onward result within there
  | group index body hands =>
      intro spot onward result within found
      obtain ⟨next, nextWithin, later⟩ := hands spot _ result within found
      have captured : (spot.rest.take (spot.rest.length - next.rest.length)).length ≤ bound :=
        (List.length_take_le' _ _).trans (Nat.le_of_add_left_le within.text)
      exact ⟨{ next with captures := (index, _) :: next.captures },
        ⟨nextWithin.text, List.forall_mem_cons.mpr ⟨captured, nextWithin.captures⟩⟩, later⟩
  | repeated body least most lazy hands =>
      intro spot onward result within found
      obtain ⟨next, nextWithin, later⟩ := hands.times least spot _ result within found
      exact hands.more lazy _ _ none next onward result nextWithin later
  | echo index manner =>
      intro spot onward result within found
      obtain ⟨next, passed, later⟩ := Option.bind_eq_some_iff.mp found
      obtain ⟨taken, -, passed⟩ := Option.bind_eq_some_iff.mp passed
      exact ⟨next, within.passOver? passed, later⟩
  | given index yes no yesHands noHands =>
      intro spot onward result within found
      rw [run] at found
      split at found
      · exact yesHands spot onward result within found
      · exact noHands spot onward result within found
  | atomic body hands =>
      intro spot onward result within found
      obtain ⟨next, matched, later⟩ := Option.bind_eq_some_iff.mp found
      exact ⟨next, within_of_run hands within matched, later⟩
  | look back negated body hands =>
      intro spot onward result within found
      rw [run] at found
      split at found
      next behind looked =>
        split at found
        · cases found
        · obtain ⟨start, stepped, matched⟩ := Option.bind_eq_some_iff.mp looked
          have seen := within_of_run hands (within.back? stepped) matched
          exact ⟨{ spot with captures := behind.captures }, ⟨within.text, seen.captures⟩, found⟩
      · split at found
        · exact ⟨spot, within, found⟩
        · cases found

theorem within_of_searchFrom {bound : Nat} {pattern : Pattern} {before text : Text} {spot : Spot}
    (short : before.length + text.length ≤ bound)
    (found : pattern.searchFrom before text = some spot) : spot.Within bound := by
  induction text generalizing before with
  | nil => exact within_of_run (handsOn_run bound pattern) ⟨short, by simp⟩ found
  | cons c rest ih =>
      rw [searchFrom] at found
      rcases (Option.orElse_eq_some _ _ _).mp found with here | ⟨-, later⟩
      · exact within_of_run (handsOn_run bound pattern) ⟨short, by simp⟩ here
      · refine ih ?_ later
        rw [List.length_cons] at short ⊢
        omega

/-- A captured text is no longer than the text that was searched. -/
theorem length_capture_le {pattern : Pattern} {text captured : Text} {spot : Spot} {index : Nat}
    (found : pattern.search text = some spot) (taken : spot.capture? index = some captured) :
    captured.length ≤ text.length := by
  have within : spot.Within text.length := within_of_searchFrom (by simp) found
  obtain ⟨before, after, listed, -⟩ := List.lookup_eq_some_iff.mp taken
  exact within.captures (index, captured) (by simp [listed])

end Inquiry.Pattern
