import Mathlib

/-!
# Outcomes of steps that may fail

A sequence of steps has a result exactly when each of its steps has one.
-/

namespace Inquiry.Outcome

variable {ε α β : Type}

theorem ok_bind (value : α) (next : α → Except ε β) : (.ok value >>= next) = next value :=
  rfl

/-- Two steps succeed when the first does, and the second does on its result. -/
theorem bind_eq_ok {first : Except ε α} {next : α → Except ε β} {value : β} :
    (first >>= next) = .ok value ↔
      ∃ middle, first = .ok middle ∧ next middle = .ok value := by
  cases first with
  | error fault => simp [bind, Except.bind]
  | ok middle => simp [bind, Except.bind]

theorem pure_eq_ok {given value : α} :
    (pure given : Except ε α) = .ok value ↔ given = value := by
  simp [pure, Except.pure]

theorem map_eq_ok {change : α → β} {first : Except ε α} {value : β} :
    first.map change = .ok value ↔ ∃ middle, first = .ok middle ∧ change middle = value := by
  cases first with
  | error fault => simp [Except.map]
  | ok middle => simp [Except.map]

theorem mapError_eq_ok {ε' : Type} {change : ε → ε'} {first : Except ε α} {value : α} :
    first.mapError change = .ok value ↔ first = .ok value := by
  cases first with
  | error fault => simp [Except.mapError]
  | ok middle => simp [Except.mapError]

theorem toOption_eq_some {result : Except ε α} {value : α} :
    result.toOption = some value ↔ result = .ok value := by
  cases result with
  | error fault => simp [Except.toOption]
  | ok middle => simp [Except.toOption]

theorem exists_of_isSome {result : Except ε α} (found : result.toOption.isSome = true) :
    ∃ value, result = .ok value := by
  cases result with
  | error fault => simp [Except.toOption] at found
  | ok value => exact ⟨value, rfl⟩

/-- Every result of a list of steps comes from one of the elements. -/
theorem exists_of_mem_mapM {step : α → Except ε β} {elements : List α}
    {results : List β} (success : elements.mapM step = .ok results) {result : β}
    (member : result ∈ results) : ∃ element ∈ elements, step element = .ok result := by
  induction elements generalizing results with
  | nil =>
      obtain rfl : [] = results := by simpa [pure, Except.pure] using success
      simp at member
  | cons element rest ih =>
      rw [List.mapM_cons] at success
      obtain ⟨first, firstResult, success⟩ := bind_eq_ok.mp success
      obtain ⟨others, otherResults, success⟩ := bind_eq_ok.mp success
      obtain rfl := pure_eq_ok.mp success
      rcases List.mem_cons.mp member with rfl | later
      · exact ⟨element, by simp, firstResult⟩
      · obtain ⟨source, found, result⟩ := ih otherResults later
        exact ⟨source, by simp [found], result⟩

/-- The results of a list of steps belong to its elements one by one. -/
theorem forall₂_of_mapM {step : α → Except ε β} {elements : List α} {results : List β}
    (success : elements.mapM step = .ok results) :
    List.Forall₂ (fun element result => step element = .ok result) elements results := by
  induction elements generalizing results with
  | nil =>
      obtain rfl : [] = results := by simpa [pure, Except.pure] using success
      exact .nil
  | cons element rest ih =>
      rw [List.mapM_cons] at success
      obtain ⟨first, firstResult, success⟩ := bind_eq_ok.mp success
      obtain ⟨others, otherResults, success⟩ := bind_eq_ok.mp success
      obtain rfl := pure_eq_ok.mp success
      exact .cons firstResult (ih otherResults)

/-- A list of steps succeeds only if each of them does, and collects what they result in. -/
theorem exists_mem_of_mapM {step : α → Except ε β} {elements : List α} {results : List β}
    (success : elements.mapM step = .ok results) {element : α} (member : element ∈ elements) :
    ∃ result ∈ results, step element = .ok result := by
  induction elements generalizing results with
  | nil => simp at member
  | cons first rest ih =>
      rw [List.mapM_cons] at success
      obtain ⟨head, headResult, success⟩ := bind_eq_ok.mp success
      obtain ⟨others, otherResults, success⟩ := bind_eq_ok.mp success
      obtain rfl := pure_eq_ok.mp success
      rcases List.mem_cons.mp member with rfl | later
      · exact ⟨head, List.mem_cons_self, headResult⟩
      · obtain ⟨result, listed, found⟩ := ih otherResults later
        exact ⟨result, List.mem_cons_of_mem _ listed, found⟩

/-- What every step keeps of its element is kept by the whole list. -/
theorem map_eq_of_mapM {γ : Type} {step : α → Except ε β} {ofElement : α → γ} {ofResult : β → γ}
    {elements : List α}
    (kept : ∀ element ∈ elements, ∀ result, step element = .ok result →
      ofResult result = ofElement element)
    {results : List β} (success : elements.mapM step = .ok results) :
    results.map ofResult = elements.map ofElement := by
  induction elements generalizing results with
  | nil =>
      obtain rfl : [] = results := by simpa [pure, Except.pure] using success
      rfl
  | cons element rest ih =>
      rw [List.forall_mem_cons] at kept
      rw [List.mapM_cons] at success
      obtain ⟨first, firstResult, success⟩ := bind_eq_ok.mp success
      obtain ⟨others, otherResults, success⟩ := bind_eq_ok.mp success
      obtain rfl := pure_eq_ok.mp success
      rw [List.map_cons, List.map_cons, kept.1 first firstResult, ih kept.2 otherResults]

theorem length_of_mapM {step : α → Except ε β} {elements : List α} {results : List β}
    (success : elements.mapM step = .ok results) : results.length = elements.length := by
  have kept : results.map (fun _ => ()) = elements.map fun _ => () :=
    map_eq_of_mapM (fun _ _ _ _ => rfl) success
  simpa using congrArg List.length kept

/-- Steps that all succeed result in the list of what they result in. -/
theorem mapM_eq_ok {step : α → Except ε β} {image : α → β} {elements : List α}
    (each : ∀ element ∈ elements, step element = .ok (image element)) :
    elements.mapM step = .ok (elements.map image) := by
  induction elements with
  | nil => rfl
  | cons element rest ih =>
      rw [List.forall_mem_cons] at each
      rw [List.mapM_cons, each.1, ih each.2]
      rfl

/-- What is written element by element is read back. -/
theorem mapM_map_eq_ok {write : β → α} {read : α → Except ε β} {values : List β}
    (inverse : ∀ value ∈ values, read (write value) = .ok value) :
    (values.map write).mapM read = .ok values := by
  have round : values.mapM (read ∘ write) = .ok (values.map id) := mapM_eq_ok inverse
  rw [List.mapM_map, round, List.map_id]

/-! ## Outcomes that hinge on a shape -/

/-- The outcome hinges on the shape of what it is computed from: in that shape every fault is an
expected one, and a result requires it.  No fault but the possible ones occurs in any shape. -/
structure Hinges (possible expected : ε → Prop) (shape : Prop) (result : Except ε α) : Prop where
  possible_of_error : ∀ fault, result = .error fault → possible fault
  expected_of_shape : shape → ∀ fault, result = .error fault → expected fault
  shape_of_ok : ∀ value, result = .ok value → shape

namespace Hinges

variable {possible expected : ε → Prop} {shape : Prop}

theorem ok (holds : shape) (value : α) :
    Hinges possible expected shape (.ok value : Except ε α) where
  possible_of_error := by rintro fault ⟨⟩
  expected_of_shape := by rintro - fault ⟨⟩
  shape_of_ok := fun _ _ => holds

/-- An expected fault may occur in any shape. -/
theorem error {fault : ε} (listed : possible fault) (usual : expected fault) :
    Hinges possible expected shape (.error fault : Except ε α) where
  possible_of_error := by
    rintro other ⟨⟩
    exact listed
  expected_of_shape := by
    rintro - other ⟨⟩
    exact usual
  shape_of_ok := by rintro value ⟨⟩

theorem error_of_not {fault : ε} (listed : possible fault) (other : ¬shape) :
    Hinges possible expected shape (.error fault : Except ε α) where
  possible_of_error := by
    rintro other ⟨⟩
    exact listed
  expected_of_shape := fun holds => absurd holds other
  shape_of_ok := by rintro value ⟨⟩

theorem congr {result : Except ε α} {other : Prop}
    (hinges : Hinges possible expected shape result) (same : shape ↔ other) :
    Hinges possible expected other result :=
  propext same ▸ hinges

/-- Two steps hinge on the shape for the first and the shape for the second. -/
theorem bind {first : Except ε α} {next : α → Except ε β} {rest : Prop}
    (here : Hinges possible expected shape first)
    (later : ∀ middle, first = .ok middle → Hinges possible expected rest (next middle)) :
    Hinges possible expected (shape ∧ rest) (first >>= next) := by
  cases found : first with
  | error fault =>
      refine ⟨?_, ?_, ?_⟩
      · rintro other ⟨⟩
        exact here.possible_of_error fault found
      · rintro ⟨holds, -⟩ other ⟨⟩
        exact here.expected_of_shape holds fault found
      · rintro value ⟨⟩
  | ok middle =>
      have behind := later middle found
      exact ⟨behind.possible_of_error, fun holds => behind.expected_of_shape holds.2,
        fun value success => ⟨here.shape_of_ok middle found, behind.shape_of_ok value success⟩⟩

/-- The first step asks for no shape. -/
theorem bind_of_true {first : Except ε α} {next : α → Except ε β}
    (here : Hinges possible expected True first)
    (later : ∀ middle, first = .ok middle → Hinges possible expected shape (next middle)) :
    Hinges possible expected shape (first >>= next) :=
  (here.bind later).congr (and_iff_right trivial)

/-- The second step asks for no shape. -/
theorem bind_true {first : Except ε α} {next : α → Except ε β}
    (here : Hinges possible expected shape first)
    (later : ∀ middle, first = .ok middle → Hinges possible expected True (next middle)) :
    Hinges possible expected shape (first >>= next) :=
  (here.bind later).congr (and_iff_left trivial)

/-- The steps of a list ask for the shape of every element. -/
theorem mapM {step : α → Except ε β} {each : α → Prop} {elements : List α}
    (one : ∀ element ∈ elements, Hinges possible expected (each element) (step element)) :
    Hinges possible expected (∀ element ∈ elements, each element) (elements.mapM step) := by
  induction elements with
  | nil => exact .ok (by simp) []
  | cons element rest ih =>
      rw [List.forall_mem_cons] at one
      rw [List.mapM_cons]
      refine (one.1.bind fun first _ => ?_).congr List.forall_mem_cons.symm
      exact (ih one.2).bind_true fun others _ => .ok trivial (first :: others)

/-- Where no fault is expected, there is a result exactly in that shape. -/
theorem exists_iff {result : Except ε α} (hinges : Hinges possible (fun _ => False) shape result) :
    (∃ value, result = .ok value) ↔ shape := by
  constructor
  · rintro ⟨value, success⟩
    exact hinges.shape_of_ok value success
  · intro holds
    cases found : result with
    | error fault => exact (hinges.expected_of_shape holds fault found).elim
    | ok value => exact ⟨value, rfl⟩

end Hinges

end Inquiry.Outcome
