import Inquiry.Proofs.Text.Runs
import Inquiry.Text.Blank

/-!
# Texts taken apart and put together

What joining, cutting, stripping and replacing do to a text, and which characters
they leave in it.
-/

namespace Inquiry.Text

theorem forall_not_of_all {test : Char → Bool} {text : Text}
    (all : text.all (fun c => !test c) = true) : ∀ c ∈ text, test c = false := by
  intro c member
  simpa using List.all_eq_true.mp all c member

/-! ## Joined pieces -/

theorem join_concat {separator last : Text} {pieces : List Text} (nonempty : pieces ≠ []) :
    join separator (pieces ++ [last]) = join separator pieces ++ separator ++ last := by
  induction pieces with
  | nil => exact absurd rfl nonempty
  | cons first rest ih =>
      cases rest with
      | nil => rfl
      | cons second others =>
          have later := ih (by simp)
          simp only [List.cons_append, join_cons_cons] at later ⊢
          rw [later]
          simp only [List.append_assoc]

/-- What is joined around a piece does not depend on the piece. -/
theorem exists_around_piece (separator : Text) (left right : List Text) :
    ∃ before after, ∀ piece, join separator (left ++ piece :: right) =
      before ++ (piece ++ after) := by
  induction left with
  | nil =>
      cases right with
      | nil => exact ⟨[], [], by simp⟩
      | cons next others =>
          exact ⟨[], separator ++ join separator (next :: others), by simp⟩
  | cons first rest ih =>
      obtain ⟨before, after, joined⟩ := ih
      refine ⟨first ++ separator ++ before, after, fun piece => ?_⟩
      obtain ⟨second, others, whole⟩ : ∃ second others,
          rest ++ piece :: right = second :: others :=
        List.exists_cons_of_ne_nil (by simp)
      have later := joined piece
      rw [whole] at later
      rw [List.cons_append, whole, join_cons_cons, later]
      simp only [List.append_assoc]

theorem mem_join {separator : Text} {pieces : List Text} {c : Char}
    (member : c ∈ join separator pieces) : c ∈ separator ∨ ∃ piece ∈ pieces, c ∈ piece := by
  induction pieces with
  | nil => simp at member
  | cons first rest ih =>
      cases rest with
      | nil => exact .inr ⟨first, by simp, by simpa using member⟩
      | cons second others =>
          simp only [join_cons_cons, List.mem_append] at member
          rcases member with (here | between) | later
          · exact .inr ⟨first, by simp, here⟩
          · exact .inl between
          · rcases ih later with between | ⟨piece, found, holds⟩
            · exact .inl between
            · exact .inr ⟨piece, by simp [found], holds⟩

/-! ## Cuts at a mark -/

theorem cut?_append {mark : Char} {left : Text} (absent : mark ∉ left) (right : Text) :
    cut? mark (left ++ mark :: right) = some (left, right) := by
  induction left with
  | nil => simp [cut?]
  | cons c rest ih =>
      have distinct : c ≠ mark := Ne.symm (List.ne_of_not_mem_cons absent)
      simp [cut?, distinct, ih (List.not_mem_of_not_mem_cons absent)]

theorem cut?_of_not_mem {mark : Char} {text : Text} (absent : mark ∉ text) :
    cut? mark text = none := by
  induction text with
  | nil => rfl
  | cons c rest ih =>
      have distinct : c ≠ mark := Ne.symm (List.ne_of_not_mem_cons absent)
      simp [cut?, distinct, ih (List.not_mem_of_not_mem_cons absent)]

/-! ## Blanks at the ends -/

theorem strip_eq_self {text : Text} (begins : text.head?.any isBlank = false)
    (ends : text.getLast?.any isBlank = false) : strip text = text := by
  have front : text.dropWhile isBlank = text := by
    cases text with
    | nil => rfl
    | cons c rest => simp [show isBlank c = false by simpa using begins]
  have back : text.reverse.dropWhile isBlank = text.reverse := by
    rcases List.eq_nil_or_concat' text with rfl | ⟨rest, c, rfl⟩
    · rfl
    · simp [show isBlank c = false by simpa using ends]
  rw [strip, front, back, List.reverse_reverse]

theorem strip_concat {text : Text} {c : Char} (blank : isBlank c = true)
    (nonempty : text ≠ []) (begins : text.head?.any isBlank = false) :
    strip (text ++ [c]) = strip text := by
  have front : (text ++ [c]).dropWhile isBlank = text.dropWhile isBlank ++ [c] := by
    cases text with
    | nil => exact absurd rfl nonempty
    | cons d rest => simp [show isBlank d = false by simpa using begins]
  rw [strip, front, strip, List.reverse_append, List.reverse_singleton,
    List.singleton_append, List.dropWhile_cons, if_pos blank]

/-- A text is what is left of it, between blanks. -/
theorem exists_eq_strip (text : Text) : ∃ before after, text = before ++ strip text ++ after ∧
    (∀ c ∈ before, isBlank c = true) ∧ ∀ c ∈ after, isBlank c = true := by
  refine ⟨text.takeWhile isBlank, (List.takeWhile isBlank (text.dropWhile isBlank).reverse).reverse,
    ?_, ?_, ?_⟩
  · rw [strip, List.append_assoc, ← List.reverse_append, List.takeWhile_append_dropWhile,
      List.reverse_reverse, List.takeWhile_append_dropWhile]
  · exact fun c => List.mem_takeWhile_imp
  · exact fun c member => List.mem_takeWhile_imp (List.mem_reverse.mp member)

theorem getLast?_strip (text : Text) : (strip text).getLast?.any isBlank = false := by
  rw [strip, List.getLast?_reverse]
  exact head?_dropWhile _

theorem head?_strip (text : Text) : (strip text).head?.any isBlank = false := by
  have begins : strip text <+: text.dropWhile isBlank := by
    rw [← List.reverse_suffix, strip, List.reverse_reverse]
    exact List.dropWhile_suffix isBlank
  obtain ⟨rest, whole⟩ := begins
  have first : (text.dropWhile isBlank).head?.any isBlank = false := head?_dropWhile text
  rw [← whole] at first
  cases found : strip text with
  | nil => rfl
  | cons c others => simpa [found] using first

@[simp] theorem strip_strip (text : Text) : strip (strip text) = strip text :=
  strip_eq_self (head?_strip text) (getLast?_strip text)

/-- In front of a text that is stripped, only blanks at the beginning are stripped. -/
theorem strip_append {text : Text} (stripped : strip text = text) (nonempty : text ≠ [])
    (before : Text) : strip (before ++ text) = before.dropWhile isBlank ++ text := by
  have begins := head?_strip text
  have ends := getLast?_strip text
  rw [stripped] at begins ends
  have front : (before ++ text).dropWhile isBlank = before.dropWhile isBlank ++ text := by
    rw [List.dropWhile_append]
    split
    next empty =>
      have first : text.dropWhile isBlank = text := by
        cases text with
        | nil => rfl
        | cons c rest => simp [show isBlank c = false by simpa using begins]
      rw [first, List.isEmpty_iff.mp empty, List.nil_append]
    next => rfl
  obtain ⟨rest, c, rfl⟩ := (List.eq_nil_or_concat' text).resolve_left nonempty
  have last : isBlank c = false := by simpa using ends
  rw [strip, front, ← List.append_assoc, List.reverse_append, List.reverse_singleton,
    List.singleton_append, List.dropWhile_cons_of_neg (by simp [last])]
  simp

theorem infix_of_strip (text : Text) : strip text <:+: text := by
  obtain ⟨before, after, whole, -⟩ := exists_eq_strip text
  exact ⟨before, after, whole.symm⟩

theorem strip_eq_nil_iff {text : Text} : strip text = [] ↔ ∀ c ∈ text, isBlank c = true := by
  constructor
  · intro empty
    obtain ⟨before, after, whole, blanksBefore, blanksAfter⟩ := exists_eq_strip text
    rw [empty, List.append_nil] at whole
    rw [whole]
    exact List.forall_mem_append.mpr ⟨blanksBefore, blanksAfter⟩
  · intro blank
    have front : text.dropWhile isBlank = [] := List.dropWhile_eq_nil_iff.mpr blank
    rw [strip, front]
    rfl

theorem strip_cons_of_blank {c : Char} (blank : isBlank c = true) (text : Text) :
    strip (c :: text) = strip text := by
  rw [strip, List.dropWhile_cons_of_pos blank, strip]

theorem strip_append_blanks {blanks : Text} (all : ∀ c ∈ blanks, isBlank c = true)
    (text : Text) : strip (text ++ blanks) = strip text := by
  have behind : (blanks.reverse ++ (text.dropWhile isBlank).reverse).dropWhile isBlank =
      (text.dropWhile isBlank).reverse.dropWhile isBlank :=
    List.dropWhile_append_of_pos fun c member => all c (List.mem_reverse.mp member)
  rw [strip, List.dropWhile_append]
  split
  next empty =>
    have front : text.dropWhile isBlank = [] := by simpa using empty
    rw [List.dropWhile_eq_nil_iff.mpr all, strip, front]
  next =>
    rw [List.reverse_append, behind, strip]

theorem strip_blanks_append {blanks : Text} (all : ∀ c ∈ blanks, isBlank c = true)
    (text : Text) : strip (blanks ++ text) = strip text := by
  rw [strip, List.dropWhile_append_of_pos all, strip]

/-- A piece that begins with no blank does not reach into the blanks before a text. -/
theorem infix_of_blanks_append {piece blanks text : Text}
    (begins : piece.head?.any isBlank = false) (all : ∀ c ∈ blanks, isBlank c = true)
    (within : piece <:+: blanks ++ text) : piece <:+: text := by
  induction blanks with
  | nil => exact within
  | cons blank rest ih =>
      rw [List.forall_mem_cons] at all
      rcases List.infix_cons_iff.mp within with prefixed | later
      · cases piece with
        | nil => exact List.nil_infix
        | cons c others =>
            rw [(List.cons_prefix_cons.mp prefixed).1] at begins
            simp [all.1] at begins
      · exact ih all.2 later

theorem infix_of_append_blanks {piece text blanks : Text}
    (ends : piece.getLast?.any isBlank = false) (all : ∀ c ∈ blanks, isBlank c = true)
    (within : piece <:+: text ++ blanks) : piece <:+: text := by
  rw [← List.reverse_infix] at within ⊢
  rw [List.reverse_append] at within
  apply infix_of_blanks_append _ _ within
  · rwa [List.head?_reverse]
  · simpa using all

/-- A text that begins with no blank stands behind the blanks at the beginning. -/
theorem exists_behind_blanks {blanks text before piece : Text}
    (whole : blanks ++ text = before ++ piece) (all : ∀ c ∈ blanks, isBlank c = true)
    (begins : piece.head?.any isBlank = false) :
    ∃ front, before = blanks ++ front ∧ text = front ++ piece := by
  rcases List.append_eq_append_iff.mp whole with ⟨front, moved, parted⟩ | ⟨middle, rfl, parted⟩
  · exact ⟨front, moved, parted⟩
  · cases middle with
    | nil => exact ⟨[], by simp, parted.symm⟩
    | cons c middle =>
        rw [parted] at begins
        simp [all c (by simp)] at begins

/-- What begins and ends with no blanks stands between the blanks around a text. -/
theorem exists_parted_between {leading text trailing before piece after : Text}
    (whole : leading ++ (text ++ trailing) = before ++ (piece ++ after))
    (blanksBefore : ∀ c ∈ leading, isBlank c = true)
    (blanksAfter : ∀ c ∈ trailing, isBlank c = true) (nonempty : piece ≠ [])
    (begins : piece.head?.any isBlank = false) (ends : piece.getLast?.any isBlank = false) :
    ∃ front back, text = front ++ (piece ++ back) ∧
      before = leading ++ front ∧ after = back ++ trailing := by
  obtain ⟨front, moved, behind⟩ := exists_behind_blanks whole blanksBefore
    (by rwa [List.head?_append_of_ne_nil _ nonempty])
  have reversed : trailing.reverse ++ text.reverse =
      after.reverse ++ (front ++ piece).reverse := by
    rw [← List.reverse_append, behind, ← List.append_assoc, List.reverse_append]
  obtain ⟨back, movedBack, stripped⟩ := exists_behind_blanks reversed (by simpa using blanksAfter)
    (by rwa [List.head?_reverse, List.getLast?_append_of_ne_nil _ nonempty])
  refine ⟨front, back.reverse, ?_, moved, ?_⟩
  · rw [← List.reverse_inj, stripped]
    simp
  · rw [← List.reverse_inj, movedBack]
    simp

/-- What begins and ends with no blanks stands in the stripped text, between what is left of the
text around it. -/
theorem exists_parted_strip {text before piece after : Text}
    (whole : text = before ++ (piece ++ after)) (nonempty : piece ≠ [])
    (begins : piece.head?.any isBlank = false) (ends : piece.getLast?.any isBlank = false) :
    ∃ front back leading trailing, strip text = front ++ (piece ++ back) ∧
      before = leading ++ front ∧ after = back ++ trailing := by
  obtain ⟨leading, trailing, parted, blanksBefore, blanksAfter⟩ := exists_eq_strip text
  rw [List.append_assoc] at parted
  obtain ⟨front, back, stripped, moved, movedBack⟩ := exists_parted_between
    (parted.symm.trans whole) blanksBefore blanksAfter nonempty begins ends
  exact ⟨front, back, leading, trailing, stripped, moved, movedBack⟩

/-- A keyword without blanks at its ends is found with or without the blanks at the ends of
the text. -/
theorem occurs_strip {keyword : Text} (stripped : strip keyword = keyword) (text : Text) :
    occurs keyword (strip text) = occurs keyword text := by
  rw [Bool.eq_iff_iff, occurs_iff, occurs_iff]
  constructor
  · exact fun within => within.trans (infix_of_strip text)
  · intro within
    obtain ⟨before, after, whole, blanksBefore, blanksAfter⟩ := exists_eq_strip text
    have begins := head?_strip keyword
    have ends := getLast?_strip keyword
    rw [stripped] at begins ends
    rw [whole] at within
    exact infix_of_blanks_append begins blanksBefore
      (infix_of_append_blanks ends blanksAfter within)

/-! ## Replaced needles -/

/-- Something is left of a text if the replacement is not empty. -/
theorem replace_ne_nil {needle replacement text : Text} (replaced : replacement ≠ [])
    (nonempty : text ≠ []) : replace needle replacement text ≠ [] := by
  obtain ⟨c, rest, rfl⟩ := List.exists_cons_of_ne_nil nonempty
  rw [replace, replaceFrom]
  split
  · exact List.append_ne_nil_of_left_ne_nil replaced _
  · exact List.cons_ne_nil _ _

/-- A text that lacks the first character of the needle is left as it is. -/
theorem replace_of_not_mem {c : Char} {needle replacement text : Text}
    (absent : c ∉ text) : replace (c :: needle) replacement text = text := by
  rw [replace]
  induction text with
  | nil => rfl
  | cons d rest ih =>
      have distinct : (c == d) = false :=
        beq_eq_false_iff_ne.mpr (List.ne_of_not_mem_cons absent)
      simp [replaceFrom, List.isPrefixOf, distinct, ih (List.not_mem_of_not_mem_cons absent)]

/-- The rest of a needle that stands behind a place where the needle is not stood there
before, if it neither ends in a replacement nor reaches across one. -/
theorem prefix_of_prefix_replaceFrom {needle replacement : Text} {foreign last : Char}
    (foreignIn : foreign ∈ replacement) (foreignOut : foreign ∉ needle)
    (lastOut : last ∉ replacement) {text piece : Text} (ends : piece ++ [last] <:+ needle)
    (begins : piece ++ [last] <+: replaceFrom needle replacement 0 text) :
    piece ++ [last] <+: text := by
  induction text generalizing piece with
  | nil => simp [replaceFrom] at begins
  | cons c rest ih =>
      rw [replaceFrom] at begins
      split at begins
      · rcases List.prefix_or_prefix_of_prefix begins (List.prefix_append replacement _) with
          within | across
        · exact absurd (within.subset (by simp)) lastOut
        · exact absurd (ends.subset (across.subset foreignIn)) foreignOut
      · cases piece with
        | nil =>
            obtain ⟨same, -⟩ := List.cons_prefix_cons.mp begins
            rw [same]
            exact ⟨rest, rfl⟩
        | cons d piece =>
            obtain ⟨rfl, behind⟩ := List.cons_prefix_cons.mp begins
            have shorter : piece ++ [last] <:+ needle :=
              (List.suffix_cons d (piece ++ [last])).trans ends
            exact List.cons_prefix_cons.mpr ⟨rfl, ih shorter behind⟩

theorem infix_of_infix_append {first : Char} {left right piece : Text} (absent : first ∉ left)
    (within : first :: piece <:+: left ++ right) : first :: piece <:+: right := by
  induction left with
  | nil => exact within
  | cons c rest ih =>
      rcases List.infix_cons_iff.mp within with here | later
      · obtain ⟨rfl, -⟩ := List.cons_prefix_cons.mp here
        exact absurd List.mem_cons_self absent
      · exact ih (List.not_mem_of_not_mem_cons absent) later

/-- Replacing a needle leaves none and makes none, if the replacement holds neither end of
the needle but some character that the needle lacks. -/
theorem not_infix_replace {replacement middle : Text} {first last foreign : Char}
    (firstOut : first ∉ replacement) (lastOut : last ∉ replacement)
    (foreignIn : foreign ∈ replacement) (foreignOut : foreign ∉ first :: (middle ++ [last]))
    (text : Text) :
    ¬first :: (middle ++ [last]) <:+:
      replace (first :: (middle ++ [last])) replacement text := by
  suffices general : ∀ covered, ¬first :: (middle ++ [last]) <:+:
      replaceFrom (first :: (middle ++ [last])) replacement covered text from general 0
  induction text with
  | nil =>
      intro covered
      cases covered <;> simp [replaceFrom]
  | cons c rest ih =>
      intro covered
      cases covered with
      | succ covered => exact ih covered
      | zero =>
          rw [replaceFrom]
          split
          next =>
            intro within
            exact ih _ (infix_of_infix_append firstOut within)
          next other =>
            intro within
            rcases List.infix_cons_iff.mp within with here | later
            · obtain ⟨rfl, behind⟩ := List.cons_prefix_cons.mp here
              have stood : middle ++ [last] <+: rest :=
                prefix_of_prefix_replaceFrom foreignIn foreignOut lastOut
                  (List.suffix_cons first _) behind
              exact other (List.isPrefixOf_iff_prefix.mpr
                (List.cons_prefix_cons.mpr ⟨rfl, stood⟩))
            · exact ih 0 later

end Inquiry.Text
