import Inquiry.Proofs.Statement.Placeholders

/-!
# One statement in both styles

A style decides how the places of bound values are marked, and nothing else.  A
statement is therefore the same text in both styles, cut at the same places, and
only what stands at the cuts differs.

A date condition may bind values of its own without marking them.  Its values take
numbers all the same, so the marks count up but may leave out numbers.
-/

namespace Inquiry

/-- A text in which marks for positions stand, each followed by the text up to the next. -/
def ParamStyle.fill (style : ParamStyle) (first : Text) (marked : List (Nat × Text)) : Text :=
  first ++ marked.flatMap fun mark => style.placeholder mark.1 ++ mark.2

/-- The styles differ in the marks for these positions alone, which stand in this order. -/
def Styled (positions : List Nat) (text : ParamStyle → Text) : Prop :=
  ∃ first marked, marked.map Prod.fst = positions ∧ ∀ style, text style = style.fill first marked

namespace Styled

variable {left right : List Nat} {before after : ParamStyle → Text}

theorem plain (text : Text) : Styled [] fun _ => text :=
  ⟨text, [], rfl, fun _ => (List.append_nil text).symm⟩

theorem placeholder (position : Nat) : Styled [position] fun style => style.placeholder position :=
  ⟨[], [(position, [])], rfl, fun style => by simp [ParamStyle.fill]⟩

theorem append (front : Styled left before) (back : Styled right after) :
    Styled (left ++ right) fun style => before style ++ after style := by
  obtain ⟨first, marked, rfl, filled⟩ := front
  obtain ⟨second, others, rfl, otherFilled⟩ := back
  -- The second text begins behind the last mark of the first, if that has any.
  rcases List.eq_nil_or_concat' marked with rfl | ⟨earlier, last, rfl⟩
  · refine ⟨first ++ second, others, rfl, fun style => ?_⟩
    simp [filled, otherFilled, ParamStyle.fill]
  · refine ⟨first, earlier ++ (last.1, last.2 ++ second) :: others, by simp, fun style => ?_⟩
    simp [filled, otherFilled, ParamStyle.fill]

/-- Texts that are joined by a separator are styled one after another. -/
theorem join {α : Type} (separator : Text) {positions : α → List Nat}
    {text : α → ParamStyle → Text} {parts : List α}
    (styled : ∀ part ∈ parts, Styled (positions part) (text part)) :
    Styled (parts.flatMap positions) fun style =>
      Text.join separator (parts.map (text · style)) := by
  induction parts with
  | nil => exact plain []
  | cons first rest ih =>
      have here := styled first (by simp)
      cases rest with
      | nil => simpa using here
      | cons second others =>
          have later := ih fun part member => styled part (by simp [member])
          simpa using (here.append (plain separator)).append later

end Styled

/-! ## Conditions -/

namespace Condition

/-- The values that a condition marks the places of. -/
def marked : Condition → List Text
  | equals _ value => [value]
  | given _ _ => []
  | among _ values => values

/-- The positions that a condition marks after `bound` parameters. -/
def positions (bound : Nat) : Condition → List Nat
  | equals _ _ => [bound + 1]
  | given _ _ => []
  | among _ values => List.range' (bound + 1) values.length

/-- The positions that conditions mark, the first of them after `bound` parameters. -/
def positionsFrom : (bound : Nat) → List Condition → List Nat
  | _, [] => []
  | bound, condition :: rest =>
      condition.positions bound ++ positionsFrom (bound + condition.parameters.length) rest

theorem styled_render (condition : Condition) (bound : Nat) :
    Styled (condition.positions bound) fun style => condition.render style bound := by
  cases condition with
  | equals column value =>
      exact (Styled.plain (column ++ " = ")).append (Styled.placeholder (bound + 1))
  | given predicate values => exact Styled.plain predicate
  | among column values =>
      have each : ∀ position ∈ List.range' (bound + 1) values.length,
          Styled [position] fun style => style.placeholder position :=
        fun position _ => Styled.placeholder position
      have listed := Styled.join ", " each
      have whole := ((Styled.plain (column ++ " IN (")).append listed).append (Styled.plain ")")
      simpa [render, positions, ParamStyle.placeholders_eq] using whole

theorem styled_renderAll (separator : Text) (conditions : List Condition) (bound : Nat) :
    Styled (positionsFrom bound conditions) fun style =>
      Text.join separator (renderAll style bound conditions) := by
  induction conditions generalizing bound with
  | nil => exact Styled.plain []
  | cons condition rest ih =>
      have here := condition.styled_render bound
      have later := ih (bound + condition.parameters.length)
      cases rest with
      | nil => simpa [positionsFrom, renderAll] using here
      | cons second others =>
          simpa [positionsFrom, renderAll] using (here.append (Styled.plain separator)).append later

/-! ## The marked positions -/

theorem mem_positions {condition : Condition} {bound position : Nat}
    (member : position ∈ condition.positions bound) :
    bound < position ∧ position ≤ bound + condition.parameters.length := by
  cases condition with
  | equals column value =>
      rw [List.mem_singleton.mp member]
      exact ⟨Nat.lt_succ_self bound, Nat.le_refl _⟩
  | given predicate values => simp [positions] at member
  | among column values =>
      have bounds := List.mem_range'_1.mp member
      simp only [parameters]
      omega

theorem pairwise_positions (condition : Condition) (bound : Nat) :
    (condition.positions bound).Pairwise (· < ·) := by
  cases condition with
  | equals column value => exact List.pairwise_singleton _ _
  | given predicate values => exact List.Pairwise.nil
  | among column values => exact List.pairwise_lt_range'

/-- The marked positions count up, beyond what was bound before. -/
theorem pairwise_positionsFrom (conditions : List Condition) (bound : Nat) :
    (bound :: positionsFrom bound conditions).Pairwise (· < ·) := by
  induction conditions generalizing bound with
  | nil => exact List.pairwise_singleton _ _
  | cons condition rest ih =>
      obtain ⟨beyond, later⟩ := List.pairwise_cons.mp (ih (bound + condition.parameters.length))
      rw [positionsFrom, List.pairwise_cons, List.pairwise_append]
      refine ⟨?_, condition.pairwise_positions bound, later, ?_⟩
      · intro position member
        rcases List.mem_append.mp member with here | there
        · exact (mem_positions here).1
        · exact Nat.lt_of_le_of_lt (Nat.le_add_right _ _) (beyond position there)
      · intro first here second there
        exact Nat.lt_of_le_of_lt (mem_positions here).2 (beyond second there)

theorem map_positions (condition : Condition) (before after : List Text) :
    (condition.positions before.length).map
        (fun position => (before ++ (condition.parameters ++ after))[position - 1]?) =
      condition.marked.map some := by
  cases condition with
  | equals column value => simp [positions, parameters, marked]
  | given predicate values => rfl
  | among column values =>
      simp only [positions, parameters, marked, List.range'_eq_map_range, List.map_map]
      apply List.ext_getElem
      · simp
      · intro offset here there
        have inside : offset < values.length := by simpa using there
        have place : before.length + 1 + offset - 1 = before.length + offset := by omega
        simp only [List.getElem_map, List.getElem_range, Function.comp_apply, place]
        rw [List.getElem?_append_right (Nat.le_add_right _ _), Nat.add_sub_cancel_left,
          List.getElem?_append_left inside, List.getElem?_eq_getElem inside]

/-- Under the marked positions the parameters hold the marked values. -/
theorem map_positionsFrom (conditions : List Condition) (before : List Text) :
    (positionsFrom before.length conditions).map
        (fun position => (before ++ conditions.flatMap (·.parameters))[position - 1]?) =
      (conditions.flatMap (·.marked)).map some := by
  induction conditions generalizing before with
  | nil => rfl
  | cons condition rest ih =>
      have here := condition.map_positions before (rest.flatMap (·.parameters))
      have later := ih (before ++ condition.parameters)
      rw [List.length_append, List.append_assoc] at later
      rw [positionsFrom, List.map_append, List.flatMap_cons, here, later, List.flatMap_cons,
        List.map_append]

/-- Conditions that mark all their values mark consecutive positions. -/
theorem positionsFrom_eq_range' {conditions : List Condition}
    (all : ∀ condition ∈ conditions, condition.parameters = condition.marked) (bound : Nat) :
    positionsFrom bound conditions =
      List.range' (bound + 1) (conditions.flatMap (·.marked)).length := by
  induction conditions generalizing bound with
  | nil => rfl
  | cons condition rest ih =>
      have whole := all condition (by simp)
      have here : condition.positions bound =
          List.range' (bound + 1) condition.marked.length := by
        cases condition <;> rfl
      rw [positionsFrom, here, ih (fun other member => all other (by simp [member])), whole,
        List.flatMap_cons, List.length_append, Nat.add_right_comm, List.range'_append_1]

end Condition

/-! ## Whole statements -/

namespace Intent

variable (contract : SchemaContract) (intent : Intent)

theorem marked_conditions :
    (intent.conditions contract).flatMap (·.marked) =
      (intent.department.map Tagged.tag).toList ++ intent.metrics := by
  obtain ⟨department, ⟨kind, predicate, boundParams⟩, aggregation, metrics, comparison, limit⟩ :=
    intent
  cases department <;> cases predicate <;> cases metrics <;>
    simp [conditions, Condition.marked]

theorem parameters_eq_marked {intent : Intent} (unbound : intent.dateRange.boundParams = []) :
    ∀ condition ∈ intent.conditions contract, condition.parameters = condition.marked := by
  intro condition member
  rcases mem_conditions member with ⟨department, rfl⟩ | ⟨-, rfl⟩ | rfl
  · rfl
  · exact unbound
  · rfl

theorem styled_sql (vocabulary : Vocabulary) :
    Styled (Condition.positionsFrom 0 (intent.conditions vocabulary.schema)) fun style =>
      (assemble vocabulary style intent).sql := by
  obtain ⟨before, after, parted⟩ :=
    Statement.exists_around_conditions (intent.statement vocabulary)
  have middle := Condition.styled_renderAll "\n  AND " (intent.conditions vocabulary.schema) 0
  have whole := (Styled.plain before).append (middle.append (Styled.plain after))
  rw [List.nil_append, List.append_nil] at whole
  have written : (fun style => (assemble vocabulary style intent).sql) = fun style =>
      before ++ (Text.join "\n  AND "
        (Condition.renderAll style 0 (intent.conditions vocabulary.schema)) ++ after) :=
    funext parted
  rw [written]
  exact whole

end Intent

/-- Both styles bind the same parameters, leave the same trail and write the same text but
for the marks.  The marks stand for the department and the metrics in order, each under the
position of its value among the parameters. -/
theorem styles_agree (vocabulary : Vocabulary) (intent : Intent) :
    let dollar := assemble vocabulary .dollar intent
    let qmark := assemble vocabulary .qmark intent
    let values := (intent.department.map Tagged.tag).toList ++ intent.metrics
    qmark.parameters = dollar.parameters ∧ qmark.trail = dollar.trail ∧
      ∃ (first : Text) (marked : List (Nat × Text)),
        qmark.sql = first ++ marked.flatMap (fun mark => "?".toList ++ mark.2) ∧
        dollar.sql = first ++
          marked.flatMap (fun mark => "$".toList ++ Decimal.ofNat mark.1 ++ mark.2) ∧
        (0 :: marked.map Prod.fst).Pairwise (· < ·) ∧
        marked.map (fun mark => dollar.parameters[mark.1 - 1]?) = values.map some ∧
        (intent.dateRange.boundParams = [] →
          marked.map Prod.fst = List.range' 1 values.length) := by
  intro dollar qmark values
  have conditions := intent.marked_conditions vocabulary.schema
  obtain ⟨first, marked, positions, filled⟩ := intent.styled_sql vocabulary
  refine ⟨rfl, rfl, first, marked, filled .qmark, filled .dollar, ?_, ?_, ?_⟩
  · rw [positions]
    exact Condition.pairwise_positionsFrom _ 0
  · have bound := Condition.map_positionsFrom (intent.conditions vocabulary.schema) []
    rw [conditions, List.length_nil, ← positions, List.map_map] at bound
    exact bound
  · intro unbound
    rw [positions, Condition.positionsFrom_eq_range'
      (Intent.parameters_eq_marked vocabulary.schema unbound), conditions]

end Inquiry
