import Inquiry.Proofs.Statement.Placeholders

/-!
# The alphabet of statements

Names, numbers, marks and connecting texts are written in a small alphabet.  It lacks quotes,
the semicolon, the star and every character that a comment opens with.  Bound values are not
written at all.

So a character beyond the alphabet stands in a statement only where its date condition stands.
-/

namespace Inquiry

/-- A letter or digit of ASCII, or one of the ten other characters that statements are written
with. -/
def Statement.isHarmless (c : Char) : Bool :=
  c.isAlphanum || ['_', '.', ',', '(', ')', '=', '$', '?', ' ', '\n'].contains c

/-- The characters of a text that are beyond the alphabet, in order. -/
def Statement.risky (text : Text) : Text :=
  text.filter fun c => !isHarmless c

open Statement (isHarmless risky)

/-! ## Risky characters -/

namespace Statement

theorem risky_eq_nil_iff {text : Text} : risky text = [] ↔ ∀ c ∈ text, isHarmless c = true := by
  simp [risky, List.filter_eq_nil_iff]

theorem risky_append (left right : Text) : risky (left ++ right) = risky left ++ risky right :=
  List.filter_append ..

/-- Risky characters are found piece by piece. -/
theorem reading_risky : Reading risky where
  toPiecewise := Piecewise.of_filter (outside_of_gaps (by decide))
  silent := by decide

/-- Around a text that holds all risky characters of the whole there are none. -/
theorem harmless_around {before text after : Text}
    (all : risky (before ++ (text ++ after)) = risky text) :
    ∀ c ∈ before ++ after, isHarmless c = true := by
  have lengths := congrArg List.length all
  simp only [risky_append, List.length_append] at lengths
  rw [← risky_eq_nil_iff, risky_append, List.append_eq_nil_iff]
  exact ⟨List.eq_nil_of_length_eq_zero (by omega), List.eq_nil_of_length_eq_zero (by omega)⟩

/-- A piece that shares no character with what stands around a text lies within the text. -/
theorem infix_of_infix_around {piece before text after : Text} (nonempty : piece ≠ [])
    (front : ∀ c ∈ piece, c ∉ before) (back : ∀ c ∈ piece, c ∉ after)
    (within : piece <:+: before ++ (text ++ after)) : piece <:+: text := by
  have inFront : piece <:+: text ++ after := by
    obtain ⟨first, rest, rfl⟩ := List.exists_cons_of_ne_nil nonempty
    exact Text.infix_of_infix_append (front first (by simp)) within
  -- The last character of the piece is the first one from behind.
  rw [← List.reverse_infix] at inFront ⊢
  rw [List.reverse_append] at inFront
  obtain ⟨last, rest, reversed⟩ := List.exists_cons_of_ne_nil (List.reverse_ne_nil_iff.mpr nonempty)
  have absent : last ∉ after.reverse := by
    rw [List.mem_reverse]
    exact back last (List.mem_reverse.mp (by simp [reversed]))
  rw [reversed] at inFront ⊢
  exact Text.infix_of_infix_append absent inFront

end Statement

/-! ## Conditions -/

theorem ParamStyle.harmless_placeholder (style : ParamStyle) (position : Nat) :
    ∀ c ∈ style.placeholder position, isHarmless c = true := by
  cases style with
  | dollar =>
      have digits : ∀ c ∈ Decimal.ofNat position, isHarmless c = true := by
        intro c member
        simp [isHarmless, Char.isAlphanum, Decimal.isDigit_of_mem_ofNat member]
      simp only [placeholder, List.forall_mem_append]
      exact ⟨List.all_eq_true.mp (by decide), digits⟩
  | qmark => exact List.forall_mem_singleton.mpr (by decide)

namespace Condition

/-- The risky characters of a condition are those of the text that it is given as. -/
theorem risky_render {condition : Condition}
    (plain : ∀ column ∈ condition.columns, risky column = []) (style : ParamStyle) (bound : Nat) :
    risky (condition.render style bound) = risky condition.givenText := by
  have reading := Statement.reading_risky
  have marks : ∀ position, risky (style.placeholder position) = [] :=
    fun position => Statement.risky_eq_nil_iff.mpr (style.harmless_placeholder position)
  cases condition with
  | equals column value =>
      rw [reading.read_equals, plain column (by simp [columns]), marks]
      rfl
  | given predicate values => rfl
  | among column values =>
      have none : (style.placeholders bound values.length).flatMap risky = [] := by
        rw [style.placeholders_eq, List.flatMap_map, List.flatMap_eq_nil_iff]
        exact fun position _ => marks position
      rw [reading.read_among, plain column (by simp [columns]), none]
      rfl

theorem risky_renderAll {conditions : List Condition}
    (plain : ∀ condition ∈ conditions, ∀ column ∈ condition.columns, risky column = [])
    (style : ParamStyle) (bound : Nat) :
    (renderAll style bound conditions).flatMap risky =
      conditions.flatMap fun condition => risky condition.givenText := by
  induction conditions generalizing bound with
  | nil => rfl
  | cons condition rest ih =>
      rw [List.forall_mem_cons] at plain
      rw [renderAll, List.flatMap_cons, risky_render plain.1, ih plain.2, List.flatMap_cons]

theorem mem_renderAll_of_given {predicate : Text} {values : List Text}
    {conditions : List Condition} (member : given predicate values ∈ conditions)
    (style : ParamStyle) (bound : Nat) : predicate ∈ renderAll style bound conditions := by
  induction conditions generalizing bound with
  | nil => simp at member
  | cons condition rest ih =>
      rw [renderAll]
      rcases List.mem_cons.mp member with rfl | later
      · exact List.mem_cons_self
      · exact List.mem_cons_of_mem _ (ih later _)

end Condition

namespace Intent

theorem risky_conditions (contract : SchemaContract) (intent : Intent) :
    ((intent.conditions contract).flatMap fun condition => risky condition.givenText) =
      risky intent.dateRange.predicate := by
  have department : ((intent.department.map fun department =>
        Condition.equals (contract.dimension.column contract.dimension.code)
          (Tagged.tag department)).toList.flatMap fun condition => risky condition.givenText) =
      [] := by
    cases intent.department <;> rfl
  simp only [conditions, List.flatMap_append, department, List.isEmpty_iff]
  split <;> split <;> simp [Condition.givenText, risky, *]

/-- A date condition stands in the statement as it was given. -/
theorem exists_around_predicate (vocabulary : Vocabulary) (style : ParamStyle) {intent : Intent}
    (present : intent.dateRange.predicate ≠ []) :
    ∃ before after, (assemble vocabulary style intent).sql =
      before ++ (intent.dateRange.predicate ++ after) := by
  have given : Condition.given intent.dateRange.predicate intent.dateRange.boundParams ∈
      intent.conditions vocabulary.schema := by
    simp [conditions, present]
  obtain ⟨left, right, parted⟩ :=
    List.append_of_mem (Condition.mem_renderAll_of_given given style 0)
  obtain ⟨outerBefore, outerAfter, outer⟩ :=
    Statement.exists_around_conditions (intent.statement vocabulary)
  obtain ⟨innerBefore, innerAfter, inner⟩ := Text.exists_around_piece "\n  AND " left right
  refine ⟨outerBefore ++ innerBefore, innerAfter ++ outerAfter, ?_⟩
  have whole : (assemble vocabulary style intent).sql = outerBefore ++ (Text.join "\n  AND "
      (Condition.renderAll style 0 (intent.conditions vocabulary.schema)) ++ outerAfter) :=
    outer style
  rw [whole, parted, inner]
  simp only [List.append_assoc]

end Intent

/-! ## Whole statements -/

/-- All risky characters of a statement are those of its date condition. -/
theorem Vocabulary.WellFormed.risky_sql {vocabulary : Vocabulary}
    (wellFormed : vocabulary.WellFormed) (style : ParamStyle) (intent : Intent) :
    risky (assemble vocabulary style intent).sql = risky intent.dateRange.predicate := by
  have plain : ∀ name, Written vocabulary name → risky name = [] := by
    intro name written
    refine Statement.risky_eq_nil_iff.mpr fun c member => ?_
    have part := wellFormed.parts_of_written written c member
    simp only [Statement.isNamePart, Bool.or_eq_true, beq_iff_eq] at part
    rcases part with (letter | rfl) | rfl
    · simp [isHarmless, letter]
    · decide
    · decide
  rw [wellFormed.read_sql Statement.reading_risky plain (by decide),
    Condition.risky_renderAll fun _ member _ named => plain _ (written_conditionColumn member named),
    Intent.risky_conditions]

/-- A statement is its date condition, as it was given, within text that is written in the
alphabet alone.  A marker of risky characters, such as that of a comment, stands in the statement
only if it stands in the date condition. -/
theorem harmless_around_predicate {raw : Value} {vocabulary : Vocabulary}
    (accepted : Vocabulary.read raw = .ok vocabulary) (style : ParamStyle) (intent : Intent) :
    let sql := (assemble vocabulary style intent).sql
    let predicate := intent.dateRange.predicate
    (∃ before after, sql = before ++ (predicate ++ after) ∧
      (∀ c ∈ before ++ after, isHarmless c = true) ∧ (predicate = [] → after = [])) ∧
      ∀ marker, marker ≠ [] → (∀ c ∈ marker, isHarmless c = false) →
        marker <:+: sql → marker <:+: predicate := by
  intro sql predicate
  have risks : risky sql = risky predicate :=
    (Vocabulary.wellFormed_of_read accepted).risky_sql style intent
  obtain ⟨before, after, parted, unfiltered⟩ : ∃ before after,
      sql = before ++ (predicate ++ after) ∧ (predicate = [] → after = []) := by
    by_cases absent : predicate = []
    · exact ⟨sql, [], by simp [absent], fun _ => rfl⟩
    · obtain ⟨before, after, parted⟩ := Intent.exists_around_predicate vocabulary style absent
      exact ⟨before, after, parted, fun empty => absurd empty absent⟩
  have harmless : ∀ c ∈ before ++ after, isHarmless c = true :=
    Statement.harmless_around (parted ▸ risks)
  refine ⟨⟨before, after, parted, harmless, unfiltered⟩, ?_⟩
  intro marker nonempty beyond within
  have absent : ∀ c ∈ marker, c ∉ before ++ after := by
    intro c member there
    have both := beyond c member
    rw [harmless c there] at both
    cases both
  rw [parted] at within
  exact Statement.infix_of_infix_around nonempty
    (fun c member there => absent c member (List.mem_append_left _ there))
    (fun c member there => absent c member (List.mem_append_right _ there)) within

/-- A metric whose name would end the statement and comment out what follows. -/
def Vocabulary.hostileIntent : Intent where
  dateRange := { kind := .q1, predicate := "r.taken_on < DATE 'x'", boundParams := ["1; --"] }
  metrics := ["rain'; DROP TABLE readings; --"]

theorem hostile_parameter_unwritten :
    Vocabulary.read Vocabulary.sampleSource = .ok Vocabulary.sampleVocabulary ∧
      ¬"--".toList <:+: (assemble Vocabulary.sampleVocabulary .dollar
        Vocabulary.hostileIntent).sql := by
  have unmarked : Text.occurs "--" Vocabulary.hostileIntent.dateRange.predicate = false := by rfl
  refine ⟨Vocabulary.read_sampleSource, fun within => ?_⟩
  have given := (harmless_around_predicate Vocabulary.read_sampleSource .dollar
    Vocabulary.hostileIntent).2 "--" (by decide) (Text.forall_not_of_all (by decide)) within
  rw [← Text.occurs_iff, unmarked] at given
  cases given

end Inquiry
