import Inquiry.Proofs.Safety.Keyword
import Inquiry.Proofs.Text.Stripped

/-!
# Spellings of tags

A text is made into a tag by writing one underscore for each run of blanks and hyphens.  So a tag
has many spellings: its letters may be capital ones, blanks may stand around it, and blanks and
hyphens may stand for its underscores.
-/

namespace Inquiry.Text

/-- A blank or a hyphen. -/
def isGap (c : Char) : Bool :=
  isBlank c || c == '-'

/-- The first text with one underscore in the place of each run of blanks and hyphens. -/
inductive Underscored : Text → Text → Prop where
  | done : Underscored [] []
  | plain {c : Char} {text tag : Text} :
      isGap c = false → Underscored text tag → Underscored (c :: text) (c :: tag)
  | gap {run text tag : Text} :
      run ≠ [] → (∀ c ∈ run, isGap c = true) → text.head?.any isGap = false →
      Underscored text tag → Underscored (run ++ text) ('_' :: tag)

/-- The second text spells the tag: with letters of ASCII in either case, and with blanks and
hyphens for any of its underscores. -/
inductive Spells : Text → Text → Prop where
  | done : Spells [] []
  | letter {c d : Char} {tag text : Text} :
      d.toLower = c → Spells tag text → Spells (c :: tag) (d :: text)
  | gap {run tag text : Text} :
      run ≠ [] → (∀ c ∈ run, isGap c = true) → Spells tag text → Spells ('_' :: tag) (run ++ text)

/-! ## Runs of blanks and hyphens -/

theorem tagFrom_plain {c : Char} (plain : isGap c = false) (inRun : Bool) (rest : Text) :
    tagFrom inRun (c :: rest) = c :: tagFrom false rest := by
  have passed : ¬(isBlank c || c == '-') = true := by
    simpa [isGap] using plain
  rw [tagFrom, if_neg passed]

/-- Nothing more is written for a run whose underscore is written already. -/
theorem tagFrom_run {run : Text} (all : ∀ c ∈ run, isGap c = true) {rest : Text}
    (ends : rest.head?.any isGap = false) : tagFrom true (run ++ rest) = tagFrom false rest := by
  induction run with
  | nil =>
      cases rest with
      | nil => rfl
      | cons c others =>
          have plain : isGap c = false := ends
          rw [List.nil_append, tagFrom_plain plain, tagFrom_plain plain]
  | cons c run ih =>
      rw [List.forall_mem_cons] at all
      have within : (isBlank c || c == '-') = true := all.1
      rw [List.cons_append, tagFrom, if_pos within, if_pos rfl, ih all.2]

theorem tag_run {run : Text} (nonempty : run ≠ []) (all : ∀ c ∈ run, isGap c = true)
    {rest : Text} (ends : rest.head?.any isGap = false) : tag (run ++ rest) = '_' :: tag rest := by
  obtain ⟨c, others, rfl⟩ := List.exists_cons_of_ne_nil nonempty
  rw [List.forall_mem_cons] at all
  have within : (isBlank c || c == '-') = true := all.1
  rw [tag, List.cons_append, tagFrom, if_pos within, if_neg Bool.false_ne_true,
    tagFrom_run all.2 ends, tag]

/-- A tag is the text with an underscore for each run, and nothing else is. -/
theorem underscored_iff {text made : Text} : Underscored text made ↔ tag text = made := by
  constructor
  · intro underscored
    induction underscored with
    | done => rfl
    | plain plain _ ih => rw [tag, tagFrom_plain plain, ← ih, tag]
    | gap nonempty all ends _ ih => rw [tag_run nonempty all ends, ih]
  · rintro rfl
    induction text using runs_induction isGap with
    | whole run all =>
        by_cases empty : run = []
        · rw [empty]
          exact .done
        · rw [← List.append_nil run, tag_run empty all rfl]
          exact .gap empty all rfl .done
    | cut run c rest all plain ih =>
        have later : Underscored (c :: rest) (tag (c :: rest)) := by
          rw [tag, tagFrom_plain plain]
          exact .plain plain ih
        by_cases empty : run = []
        · rw [empty]
          exact later
        · have ends : (c :: rest).head?.any isGap = false := plain
          rw [tag_run empty all ends]
          exact .gap empty all ends later

/-! ## Small letters -/

theorem not_isUpper_of_isBlank {c : Char} (blank : isBlank c = true) : ¬c.isUpper = true := by
  have small : c.isUpper = false := Safety.outside_of_isBlank (by decide +kernel) blank
  exact Bool.eq_false_iff.mp small

theorem toLower_of_isGap {c : Char} (gap : isGap c = true) : c.toLower = c := by
  rw [isGap, Bool.or_eq_true, beq_iff_eq] at gap
  rcases gap with blank | rfl
  · exact Char.toLower_eq_of_not_isUpper (not_isUpper_of_isBlank blank)
  · rfl

/-- Letters of ASCII and blanks are turned into small letters one by one. -/
theorem lower_eq_map_toLower {text : Text}
    (simple : ∀ c ∈ text, c.toNat < 128 ∨ isBlank c = true) :
    lower text = text.map Char.toLower := by
  suffices general : ∀ before, lowerFrom before text = text.map Char.toLower from general []
  induction text with
  | nil => exact fun _ => rfl
  | cons c rest ih =>
      intro before
      rw [List.forall_mem_cons] at simple
      have here : smallForm before c rest = [c.toLower] := by
        rcases simple.1 with ascii | blank
        · have plain : c ≠ 'Σ' := by
            rintro rfl
            exact absurd ascii (by decide)
          rw [smallForm, if_neg plain, lowerChar, if_pos ascii]
        · rw [smallForm_of_isBlank blank,
            Char.toLower_eq_of_not_isUpper (not_isUpper_of_isBlank blank)]
      rw [lowerFrom_cons, here, ih simple.2, List.singleton_append, List.map_cons]

/-! ## Spelled tags -/

/-- Words of ASCII without blanks and hyphens, with single underscores between them. -/
structure IsTidy (tag : Text) : Prop where
  ascii : ∀ c ∈ tag, c.toNat < 128
  plain : ∀ c ∈ tag, isGap c = false
  single : tag.IsChain fun c d => c = '_' → d ≠ '_'
  ends : tag.getLast? ≠ some '_'

theorem IsTidy.tail {c : Char} {tag : Text} (tidy : IsTidy (c :: tag)) : IsTidy tag where
  ascii := (List.forall_mem_cons.mp tidy.ascii).2
  plain := (List.forall_mem_cons.mp tidy.plain).2
  single := tidy.single.tail
  ends := by
    cases tag with
    | nil => simp
    | cons d rest => simpa using tidy.ends

/-- Behind an underscore something else follows. -/
theorem IsTidy.behind_underscore {tag : Text} (tidy : IsTidy ('_' :: tag)) :
    tag ≠ [] ∧ tag.head? ≠ some '_' := by
  cases tag with
  | nil => exact absurd rfl tidy.ends
  | cons c rest =>
      have distinct := (List.isChain_cons_cons.mp tidy.single).1 rfl
      simpa using distinct

/-- A character whose small letter is neither a blank nor a hyphen is no blank itself. -/
theorem inked_of_toLower {first : Option Char}
    (plain : first.any (fun c => isGap c.toLower) = false) : first.any isBlank = false := by
  cases first with
  | none => rfl
  | some c =>
      have ungapped : isGap c.toLower = false := plain
      by_contra blank
      have gap : isGap c = true := by
        simp [isGap, show isBlank c = true by simpa using blank]
      rw [toLower_of_isGap gap, gap] at ungapped
      cases ungapped

namespace Spells

variable {tag text : Text}

theorem ne_nil (spelled : Spells tag text) (nonempty : tag ≠ []) : text ≠ [] := by
  cases spelled with
  | done => exact nonempty
  | letter _ _ => exact List.cons_ne_nil _ _
  | gap filled _ _ => exact List.append_ne_nil_of_left_ne_nil filled _

theorem begins (spelled : Spells tag text) (tidy : IsTidy tag) (word : tag.head? ≠ some '_') :
    text.head?.any (fun c => isGap c.toLower) = false := by
  cases spelled with
  | done => rfl
  | @letter c d _ _ same _ =>
      have plain : isGap d.toLower = false := same ▸ tidy.plain c List.mem_cons_self
      exact plain
  | gap _ _ _ => exact absurd rfl word

theorem ends (spelled : Spells tag text) (tidy : IsTidy tag) :
    text.getLast?.any (fun c => isGap c.toLower) = false := by
  induction spelled with
  | done => rfl
  | @letter c d tag text same spelled ih =>
      cases text with
      | nil =>
          have plain : isGap d.toLower = false := same ▸ tidy.plain c List.mem_cons_self
          exact plain
      | cons e rest => rw [List.getLast?_cons_cons, ih tidy.tail]
  | gap _ _ spelled ih =>
      rw [List.getLast?_append_of_ne_nil _ (spelled.ne_nil tidy.behind_underscore.1),
        ih tidy.tail]

theorem simple (spelled : Spells tag text) (tidy : IsTidy tag) :
    ∀ c ∈ text, c.toNat < 128 ∨ isBlank c = true := by
  induction spelled with
  | done => simp
  | @letter c d tag text same spelled ih =>
      refine List.forall_mem_cons.mpr ⟨.inl ?_, ih tidy.tail⟩
      by_cases upper : d.isUpper = true
      · have letter := isUpper_iff.mp upper
        omega
      · rw [← Char.toLower_eq_of_not_isUpper upper, same]
        exact tidy.ascii c List.mem_cons_self
  | @gap run tag text _ all spelled ih =>
      refine List.forall_mem_append.mpr ⟨fun c member => ?_, ih tidy.tail⟩
      have gap := all c member
      rw [isGap, Bool.or_eq_true, beq_iff_eq] at gap
      rcases gap with blank | rfl
      · exact .inr blank
      · exact .inl (by decide)

/-- In small letters a spelling has one run of blanks and hyphens for each underscore. -/
theorem underscored (spelled : Spells tag text) (tidy : IsTidy tag) :
    Underscored (text.map Char.toLower) tag := by
  induction spelled with
  | done => exact .done
  | letter same spelled ih =>
      rw [List.map_cons, same]
      exact .plain (tidy.plain _ List.mem_cons_self) (ih tidy.tail)
  | @gap run tag text filled all spelled ih =>
      have unchanged : run.map Char.toLower = run :=
        (List.map_congr_left fun c member => toLower_of_isGap (all c member)).trans
          (List.map_id run)
      rw [List.map_append, unchanged]
      refine .gap filled all ?_ (ih tidy.tail)
      rw [List.head?_map, Option.any_map]
      exact spelled.begins tidy.tail tidy.behind_underscore.2

/-- Whatever blanks stand around a spelling, it is made into the tag. -/
theorem underscored_lower_strip (spelled : Spells tag text) (tidy : IsTidy tag)
    (word : tag.head? ≠ some '_') {leading trailing : Text}
    (blanksBefore : ∀ c ∈ leading, isBlank c = true)
    (blanksAfter : ∀ c ∈ trailing, isBlank c = true) :
    Underscored (lower (strip (leading ++ text ++ trailing))) tag := by
  rw [strip_append_blanks blanksAfter, strip_blanks_append blanksBefore,
    strip_eq_self (inked_of_toLower (spelled.begins tidy word))
      (inked_of_toLower (spelled.ends tidy)),
    lower_eq_map_toLower (spelled.simple tidy)]
  exact spelled.underscored tidy

end Spells

end Inquiry.Text
