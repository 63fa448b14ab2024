import Inquiry.Safety.Gate

/-!
# Tables named by lines

The safety gate takes up the name of a table only at the start of a line.  A line
that begins with a calm character names none, so the tables of a text are read
off the few lines that begin otherwise.
-/

namespace Inquiry.Safety

/-- No phrase that a table name follows begins with the character. -/
def isCalm (c : Char) : Bool :=
  tablePhrases.all fun phrase => !(phrase.head?.bind List.head?).any (isCaseOf · c)

/-- Every line that begins in the text begins with a calm character. -/
def calm : (lineStart : Bool) → Text → Bool
  | _, [] => true
  | lineStart, c :: rest => (!lineStart || isCalm c) && calm (c == '\n') rest

/-- Whether a line begins behind a text. -/
def endsLine (lineStart : Bool) (text : Text) : Bool :=
  (text.getLast?.map (· == '\n')).getD lineStart

theorem endsLine_cons (lineStart : Bool) (c : Char) (rest : Text) :
    endsLine lineStart (c :: rest) = endsLine (c == '\n') rest := by
  cases rest with
  | nil => rfl
  | cons d rest => simp [endsLine, List.getLast?_cons]

theorem calm_append (lineStart : Bool) (left right : Text) :
    calm lineStart (left ++ right) =
      (calm lineStart left && calm (endsLine lineStart left) right) := by
  induction left generalizing lineStart with
  | nil => rfl
  | cons c left ih => rw [List.cons_append, calm, ih, calm, endsLine_cons, Bool.and_assoc]

/-- Behind the start of a line everything up to the next line is calm. -/
theorem calm_of_not_mem {text : Text} (unbroken : '\n' ∉ text) : calm false text = true := by
  induction text with
  | nil => rfl
  | cons c rest ih =>
      have distinct : (c == '\n') = false :=
        beq_eq_false_iff_ne.mpr (Ne.symm (List.ne_of_not_mem_cons unbroken))
      rw [calm, distinct, ih (List.not_mem_of_not_mem_cons unbroken)]
      rfl

theorem endsLine_of_not_mem {text : Text} (unbroken : '\n' ∉ text) :
    endsLine false text = false := by
  cases final : text.getLast? with
  | none => simp [endsLine, final]
  | some c =>
      have member : c ∈ text := List.mem_of_getLast? final
      have distinct : c ≠ '\n' := by
        rintro rfl
        exact unbroken member
      simp [endsLine, final, distinct]

theorem spelled_eq_none {letter c : Char} (other : isCaseOf letter c = false)
    (keyword rest : Text) : spelled? (letter :: keyword) (c :: rest) = none := by
  simp [spelled?, other]

theorem phrase_eq_none {letter c : Char} (other : isCaseOf letter c = false)
    (keyword : Text) (more : List Text) (rest : Text) :
    phrase? ((letter :: keyword) :: more) (c :: rest) = none := by
  cases more <;> simp [phrase?, spelled_eq_none other]

theorem tableName_eq_none {c : Char} (peaceful : isCalm c = true) (rest : Text) :
    tableName? (c :: rest) = none := by
  have worded : ∀ phrase ∈ tablePhrases, (phrase.head?.bind List.head?).isSome = true := by
    decide
  apply List.findSome?_eq_none_iff.mpr
  intro phrase listed
  have other := List.all_eq_true.mp peaceful phrase listed
  match phrase, worded phrase listed with
  | (letter :: keyword) :: more, _ =>
      rw [phrase_eq_none (by simpa using other)]
      rfl

/-- Calm lines name no tables. -/
theorem tablesFrom_append {lineStart : Bool} {text : Text}
    (peaceful : calm lineStart text = true) (rest : Text) :
    tablesFrom lineStart 0 (text ++ rest) = tablesFrom (endsLine lineStart text) 0 rest := by
  induction text generalizing lineStart with
  | nil => rfl
  | cons c text ih =>
      simp only [calm, Bool.and_eq_true] at peaceful
      obtain ⟨here, later⟩ := peaceful
      have probe : (if lineStart then tableName? (c :: (text ++ rest)) else none) = none := by
        cases lineStart with
        | false => rfl
        | true => simpa using tableName_eq_none (by simpa using here) (text ++ rest)
      rw [List.cons_append, tablesFrom, probe, endsLine_cons]
      exact ih later

theorem tablesFrom_calm {lineStart : Bool} {text : Text}
    (peaceful : calm lineStart text = true) : tablesFrom lineStart 0 text = [] := by
  have passed := tablesFrom_append peaceful []
  rw [List.append_nil] at passed
  rw [passed]
  rfl

theorem tablesFrom_covered (lineStart : Bool) (covered rest : Text) :
    tablesFrom lineStart covered.length (covered ++ rest) =
      tablesFrom (endsLine lineStart covered) 0 rest := by
  induction covered generalizing lineStart with
  | nil => rfl
  | cons c covered ih =>
      rw [List.length_cons, List.cons_append, tablesFrom, endsLine_cons]
      exact ih (c == '\n')

/-- A line that begins with a table phrase names its table, and the reading goes on behind
the name. -/
theorem tablesFrom_name (name : Text) {c : Char} {covered rest : Text}
    (found : tableName? (c :: (covered ++ rest)) = some (name, rest)) :
    tablesFrom true 0 (c :: (covered ++ rest)) =
      name :: tablesFrom (endsLine (c == '\n') covered) 0 rest := by
  have length : (covered ++ rest).length - rest.length = covered.length := by
    simp
  rw [tablesFrom, if_pos rfl, found]
  simp only [length, tablesFrom_covered]

/-! ## Joined lines -/

theorem endsLine_concat (lineStart : Bool) (text : Text) :
    endsLine lineStart (text ++ ['\n']) = true := by
  simp [endsLine]

/-- A text of calm lines is calm. -/
theorem calm_join {lines : List Text} (peaceful : ∀ line ∈ lines, calm true line = true) :
    calm true (Text.join "\n" lines) = true := by
  have lineBreak : ∀ lineStart, calm lineStart ['\n'] = true := by decide
  induction lines with
  | nil => rfl
  | cons first rest ih =>
      cases rest with
      | nil => exact peaceful first (by simp)
      | cons second others =>
          have later := ih fun line member => peaceful line (by simp [member])
          rw [Text.join_cons_cons, calm_append, calm_append, peaceful first (by simp)]
          change (true && calm _ ['\n'] && calm (endsLine true (first ++ ['\n'])) _) = true
          rw [lineBreak, endsLine_concat, later]
          rfl

/-- Pieces on one line each are calm behind its start. -/
theorem calm_join_of_not_mem (separator : Text) (peaceful : calm false separator = true)
    (continues : endsLine false separator = false) {pieces : List Text}
    (unbroken : ∀ piece ∈ pieces, '\n' ∉ piece) :
    calm false (Text.join separator pieces) = true := by
  induction pieces with
  | nil => rfl
  | cons first rest ih =>
      have here := unbroken first (by simp)
      cases rest with
      | nil => exact calm_of_not_mem here
      | cons second others =>
          have later := ih fun piece member => unbroken piece (by simp [member])
          rw [Text.join_cons_cons, List.append_assoc, calm_append, calm_append,
            calm_of_not_mem here, endsLine_of_not_mem here, peaceful, continues, later]
          rfl

end Inquiry.Safety
