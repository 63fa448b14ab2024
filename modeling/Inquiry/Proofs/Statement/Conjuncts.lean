import Inquiry.Proofs.Statement.Nesting
import Inquiry.Proofs.Text.Basic
import Inquiry.Proofs.Text.Runs
import Inquiry.Proofs.Text.Split

/-!
# Conditions as disjunctions

A condition is read as a disjunction of conjunctions.  The words that connect it are `OR` and
`AND` in any case, outside parentheses and quoted literals; `AND` binds tighter.  A word is a
longest run of the characters of names, so that a column `t.or` connects nothing.

What is written in front of a condition, or behind it, with `AND` between them, joins the first
disjunct or the last one.  It joins every disjunct only if there is one.
-/

namespace Inquiry

/-- A word of a condition, or a character between words, and whether it stands outside
parentheses and literals. -/
structure Lexeme where
  text : Text
  outer : Bool
  deriving Repr, DecidableEq

namespace Lexeme

/-- The words of a text and the characters between them. -/
def cut (text : Text) : List Text :=
  text.splitBy fun left right => Safety.isNameChar left && Safety.isNameChar right

/-- Pieces of a text, each with what is open before it. -/
def placed (nesting : Nesting) : List Text → List Lexeme
  | [] => []
  | piece :: rest => ⟨piece, nesting.isOuter⟩ :: placed (nesting.after piece) rest

/-- The lexemes of a text behind what is open. -/
def read (nesting : Nesting) (text : Text) : List Lexeme :=
  placed nesting (cut text)

/-- The text that lexemes make up. -/
def spell (lexemes : List Lexeme) : Text :=
  lexemes.flatMap (·.text)

/-- The lexeme is a keyword that connects parts of the condition. -/
def connects (keyword : Text) (lexeme : Lexeme) : Bool :=
  lexeme.outer && lexeme.text.map Char.toUpper == keyword

/-- The conjuncts of a list of lexemes, without the blanks around them. -/
def conjuncts (lexemes : List Lexeme) : List Text :=
  (lexemes.splitOnP (connects "AND")).map fun piece => Text.strip (spell piece)

end Lexeme

namespace Text

/-- The disjuncts of a condition, each as the list of its conjuncts. -/
def disjuncts (condition : Text) : List (List Text) :=
  ((Lexeme.read {} condition).splitOnP (Lexeme.connects "OR")).map Lexeme.conjuncts

/-- The condition holds if the conjuncts of one of its disjuncts are true. -/
def holds (truth : Text → Bool) (condition : Text) : Bool :=
  (disjuncts condition).any fun disjunct => disjunct.all truth

/-- Wherever the condition holds, the test is true. -/
def Implies (condition test : Text) : Prop :=
  ∀ truth : Text → Bool, holds truth condition = true → truth test = true

/-- A test is implied exactly if it is a conjunct of every disjunct. -/
theorem implies_iff {condition test : Text} :
    Implies condition test ↔ ∀ disjunct ∈ disjuncts condition, test ∈ disjunct := by
  constructor
  · intro implied disjunct listed
    by_contra absent
    -- Everything but the test is true.
    have all : disjunct.all (· != test) = true := by
      rw [List.all_eq_true]
      intro conjunct member
      exact bne_iff_ne.mpr (ne_of_mem_of_not_mem member absent)
    have found := implied (· != test) (List.any_eq_true.mpr ⟨disjunct, listed, all⟩)
    simp at found
  · intro everywhere truth held
    obtain ⟨disjunct, listed, all⟩ := List.any_eq_true.mp held
    exact List.all_eq_true.mp all test (everywhere disjunct listed)

instance (condition test : Text) : Decidable (Implies condition test) :=
  decidable_of_iff _ implies_iff.symm

end Text

/-! ## Lexemes -/

namespace Lexeme

variable {nesting : Nesting}

theorem cut_append {left right : Text} (apart : Text.Apart Safety.isNameChar left right) :
    cut (left ++ right) = cut left ++ cut right := by
  apply List.splitBy_append
  intro x last y first
  rcases apart with ends | begins
  · have outside : Safety.isNameChar x = false := by
      simpa [Option.mem_def.mp last] using ends
    rw [outside, Bool.false_and]
  · have outside : Safety.isNameChar y = false := by
      simpa [Option.mem_def.mp first] using begins
    rw [outside, Bool.and_false]

theorem placed_append (nesting : Nesting) (left right : List Text) :
    placed nesting (left ++ right) =
      placed nesting left ++ placed (nesting.after left.flatten) right := by
  induction left generalizing nesting with
  | nil => rfl
  | cons piece rest ih =>
      rw [List.cons_append, placed, placed, ih, List.flatten_cons, Nesting.after_append]
      rfl

theorem text_of_mem_placed {pieces : List Text} {lexeme : Lexeme}
    (member : lexeme ∈ placed nesting pieces) : lexeme.text ∈ pieces := by
  induction pieces generalizing nesting with
  | nil => cases member
  | cons piece rest ih =>
      rcases List.mem_cons.mp member with rfl | later
      · exact List.mem_cons_self
      · exact List.mem_cons_of_mem _ (ih later)

/-- Among pieces without brackets nothing is opened. -/
theorem placed_of_plain {pieces : List Text}
    (plain : ∀ piece ∈ pieces, ∀ c ∈ piece, Nesting.isBracket c = false) :
    placed nesting pieces = pieces.map (⟨·, nesting.isOuter⟩) := by
  induction pieces with
  | nil => rfl
  | cons piece rest ih =>
      rw [List.forall_mem_cons] at plain
      rw [placed, Nesting.after_of_plain plain.1, ih plain.2, List.map_cons]

theorem read_append {left right : Text} (apart : Text.Apart Safety.isNameChar left right) :
    read nesting (left ++ right) = read nesting left ++ read (nesting.after left) right := by
  rw [read, cut_append apart, placed_append, cut, List.flatten_splitBy]
  rfl

@[simp] theorem spell_append (left right : List Lexeme) :
    spell (left ++ right) = spell left ++ spell right :=
  List.flatMap_append

@[simp] theorem spell_read (nesting : Nesting) (text : Text) : spell (read nesting text) = text := by
  have placed : ∀ (pieces : List Text) (nesting : Nesting),
      spell (placed nesting pieces) = pieces.flatten := by
    intro pieces
    induction pieces with
    | nil => exact fun _ => rfl
    | cons piece rest ih =>
        intro nesting
        rw [List.flatten_cons, ← ih]
        rfl
  rw [read, placed, cut, List.flatten_splitBy]

/-- The keyword connects nothing among the lexemes. -/
def Quiet (keyword : Text) (lexemes : List Lexeme) : Prop :=
  ∀ lexeme ∈ lexemes, connects keyword lexeme = false

theorem Quiet.append {keyword : Text} {left right : List Lexeme} (first : Quiet keyword left)
    (second : Quiet keyword right) : Quiet keyword (left ++ right) :=
  List.forall_mem_append.mpr ⟨first, second⟩

end Lexeme

/-! ## Tests between the conditions -/

/-- The text that stands between two conditions. -/
def Statement.conjunction : Text := "\n  AND "

/-- A test that is one conjunct wherever it stands: it connects nothing, it closes what it
opens, and no blanks are around it. -/
structure Text.IsTest (test : Text) : Prop where
  quiet : ∀ piece ∈ Lexeme.cut test,
    piece.map Char.toUpper ≠ "OR" ∧ piece.map Char.toUpper ≠ "AND"
  closed : ∀ nesting : Nesting, nesting.after test = nesting
  stripped : Text.strip test = test
  nonempty : test ≠ []

namespace Lexeme

open Statement (conjunction)

variable {nesting : Nesting} {test : Text}

theorem quiet_read (isTest : test.IsTest) (nesting : Nesting) :
    Quiet "OR" (read nesting test) ∧ Quiet "AND" (read nesting test) := by
  have other : ∀ {keyword : Text} {lexeme : Lexeme}, lexeme.text.map Char.toUpper ≠ keyword →
      connects keyword lexeme = false := by
    intro keyword lexeme different
    rw [connects, beq_eq_false_iff_ne.mpr different, Bool.and_false]
  constructor
  · exact fun lexeme member => other (isTest.quiet _ (text_of_mem_placed member)).1
  · exact fun lexeme member => other (isTest.quiet _ (text_of_mem_placed member)).2

/-- The blanks in front of the keyword. -/
def gap (nesting : Nesting) : List Lexeme :=
  ["\n".toList, " ".toList, " ".toList].map (⟨·, nesting.isOuter⟩)

/-- The keyword between two conditions. -/
def link (nesting : Nesting) : Lexeme :=
  ⟨"AND", nesting.isOuter⟩

/-- The blank behind the keyword. -/
def blank (nesting : Nesting) : Lexeme :=
  ⟨" ", nesting.isOuter⟩

theorem read_conjunction (nesting : Nesting) :
    read nesting conjunction = gap nesting ++ link nesting :: [blank nesting] := by
  have plain : (cut conjunction).all (fun piece => piece.all fun c => !Nesting.isBracket c) =
      true := by
    decide
  have pieces : cut conjunction =
      ["\n".toList, " ".toList, " ".toList, "AND".toList, " ".toList] := by
    decide
  rw [read, placed_of_plain fun piece listed =>
    Text.forall_not_of_all (List.all_eq_true.mp plain piece listed), pieces]
  rfl

theorem quiet_gap (nesting : Nesting) : Quiet "AND" (gap nesting) := by
  simp [Quiet, gap, connects]

theorem quiet_blank (nesting : Nesting) : Quiet "AND" [blank nesting] := by
  simp [Quiet, blank, connects]

theorem quiet_conjunction (nesting : Nesting) : Quiet "OR" (read nesting conjunction) := by
  rw [read_conjunction]
  simp [Quiet, gap, link, blank, connects]

theorem strip_spell_gap (lexemes : List Lexeme) (nesting : Nesting) :
    Text.strip (spell (lexemes ++ gap nesting)) = Text.strip (spell lexemes) := by
  have blanks : spell (gap nesting) = "\n  ".toList := rfl
  rw [spell_append, blanks, Text.strip_append_blanks (List.all_eq_true.mp (by decide))]

theorem strip_spell_blank (lexemes : List Lexeme) (nesting : Nesting) :
    Text.strip (spell ([blank nesting] ++ lexemes)) = Text.strip (spell lexemes) :=
  Text.strip_cons_of_blank (by decide) _

/-! ### Conjuncts of lists of lexemes -/

/-- A test in front is the first conjunct. -/
theorem conjuncts_test_append (isTest : test.IsTest) (lexemes : List Lexeme) :
    conjuncts (read {} test ++ read {} conjunction ++ lexemes) = test :: conjuncts lexemes := by
  obtain ⟨first, rest, parted⟩ := exists_splitOnP_eq_cons (connects "AND") lexemes
  have front := List.splitOnP_eq_singleton ((quiet_read isTest {}).2.append (quiet_gap {}))
  have behind := splitOnP_quiet_append (quiet_blank {}) parted
  have linked : connects "AND" (link {}) = true := by decide
  have whole : read {} test ++ read {} conjunction ++ lexemes =
      (read {} test ++ gap {}) ++ link {} :: ([blank {}] ++ lexemes) := by
    simp [read_conjunction]
  rw [conjuncts, conjuncts, whole, List.splitOnP_append_cons _ _ linked, front, behind, parted]
  rw [List.map_append, List.map_singleton, List.map_cons, List.map_cons, strip_spell_gap,
    strip_spell_blank, spell_read, isTest.stripped]
  rfl

/-- A test behind is the last conjunct, if nothing is open there. -/
theorem conjuncts_append_test (isTest : test.IsTest) (lexemes : List Lexeme) :
    conjuncts (lexemes ++ (read {} conjunction ++ read {} test)) =
      conjuncts lexemes ++ [test] := by
  obtain ⟨front, last, parted⟩ := exists_splitOnP_eq_concat (connects "AND") lexemes
  have before := splitOnP_append_quiet parted (quiet_gap {})
  have behind := List.splitOnP_eq_singleton ((quiet_blank {}).append (quiet_read isTest {}).2)
  have linked : connects "AND" (link {}) = true := by decide
  have whole : lexemes ++ (read {} conjunction ++ read {} test) =
      (lexemes ++ gap {}) ++ link {} :: ([blank {}] ++ read {} test) := by
    simp [read_conjunction]
  rw [conjuncts, conjuncts, whole, List.splitOnP_append_cons _ _ linked, before, behind, parted]
  simp only [List.map_append, List.map_singleton, strip_spell_gap, strip_spell_blank, spell_read,
    isTest.stripped]

/-- If something is open there, a test behind becomes part of the last conjunct. -/
theorem conjuncts_append_open (isTest : test.IsTest) (opened : nesting.isOuter = false)
    (lexemes : List Lexeme) :
    ∃ front last, conjuncts lexemes = front ++ [Text.strip last] ∧
      conjuncts (lexemes ++ (read nesting conjunction ++ read nesting test)) =
        front ++ [Text.strip (last ++ (conjunction ++ test))] := by
  obtain ⟨front, last, parted⟩ := exists_splitOnP_eq_concat (connects "AND") lexemes
  have unlinked : Quiet "AND" (read nesting conjunction) := by
    rw [read_conjunction]
    simp [Quiet, gap, link, blank, connects, opened]
  have joined := splitOnP_append_quiet parted (unlinked.append (quiet_read isTest nesting).2)
  refine ⟨front.map fun piece => Text.strip (spell piece), spell last, ?_, ?_⟩
  · rw [conjuncts, parted, List.map_append, List.map_singleton]
  · rw [conjuncts, joined, List.map_append, List.map_singleton]
    simp only [spell_append, spell_read]

end Lexeme

/-! ## Conditions -/

namespace Text

open Statement (conjunction)
open Lexeme (read connects)

variable {condition test : Text}

theorem apart_conjunction (left right : Text) :
    Apart Safety.isNameChar left (conjunction ++ right) := by
  have first : (conjunction ++ right).head? = some '\n' := rfl
  rw [Apart, first]
  exact .inr (by decide)

theorem conjunction_apart (right : Text) : Apart Safety.isNameChar conjunction right :=
  .inl (by decide)

theorem after_conjunction (nesting : Nesting) : nesting.after conjunction = nesting :=
  Nesting.after_of_plain (forall_not_of_all (by decide))

/-- A test in one conjunct with a conjunction in front of it is not alone there. -/
theorem ne_strip_conjunction (isTest : test.IsTest) (before : Text) :
    test ≠ strip (before ++ (conjunction ++ test)) := by
  have keyword : conjunction ++ test = "\n  ".toList ++ ("AND ".toList ++ test) := rfl
  have stripped : strip ("AND ".toList ++ test) = "AND ".toList ++ test := by
    have ends := getLast?_strip test
    rw [isTest.stripped] at ends
    exact strip_eq_self rfl (by rwa [List.getLast?_append_of_ne_nil _ isTest.nonempty])
  rw [keyword, ← List.append_assoc, strip_append stripped (by simp)]
  intro same
  have lengths := congrArg List.length same
  have letters : "AND ".toList.length = 4 := by decide
  simp only [List.length_append, letters] at lengths
  omega

theorem exists_disjuncts_eq_cons (condition : Text) :
    ∃ first others, disjuncts condition = first :: others := by
  obtain ⟨first, others, parted⟩ := exists_splitOnP_eq_cons (connects "OR") (read {} condition)
  exact ⟨_, _, by rw [disjuncts, parted, List.map_cons]⟩

/-- The lexemes of two conditions with the conjunction between them. -/
theorem read_joined (left right : Text) :
    read {} (left ++ (conjunction ++ right)) =
      read {} left ++ (read (Nesting.after {} left) conjunction ++
        read (Nesting.after {} left) right) := by
  rw [Lexeme.read_append (apart_conjunction left right),
    Lexeme.read_append (conjunction_apart right), after_conjunction]

/-- A test in front of a condition joins its first disjunct. -/
theorem disjuncts_test_append (isTest : test.IsTest) {first : List Text}
    {others : List (List Text)} (disjoined : disjuncts condition = first :: others) :
    disjuncts (test ++ (conjunction ++ condition)) = (test :: first) :: others := by
  obtain ⟨lexemes, rest, parted⟩ := exists_splitOnP_eq_cons (connects "OR") (read {} condition)
  have quiet := (Lexeme.quiet_read isTest {}).1.append (Lexeme.quiet_conjunction {})
  have joined := splitOnP_quiet_append quiet parted
  rw [disjuncts, parted, List.map_cons] at disjoined
  obtain ⟨rfl, rfl⟩ := List.cons.inj disjoined
  rw [disjuncts, read_joined, isTest.closed, ← List.append_assoc, joined, List.map_cons,
    Lexeme.conjuncts_test_append isTest]

/-- A test behind a condition joins its last disjunct, if the condition leaves nothing open. -/
theorem disjuncts_append_test (isTest : test.IsTest) (closed : Nesting.after {} condition = {}) :
    ∃ front last, disjuncts condition = front ++ [last] ∧
      disjuncts (condition ++ (conjunction ++ test)) = front ++ [last ++ [test]] := by
  obtain ⟨front, lexemes, parted⟩ :=
    exists_splitOnP_eq_concat (connects "OR") (read {} condition)
  have joined := splitOnP_append_quiet parted
    ((Lexeme.quiet_conjunction {}).append (Lexeme.quiet_read isTest {}).1)
  refine ⟨front.map Lexeme.conjuncts, Lexeme.conjuncts lexemes, ?_, ?_⟩
  · rw [disjuncts, parted, List.map_append, List.map_singleton]
  · rw [disjuncts, read_joined, closed, joined, List.map_append, List.map_singleton,
      Lexeme.conjuncts_append_test isTest]

/-- Behind a condition that leaves something open, a test is no conjunct of its own. -/
theorem disjuncts_append_open (isTest : test.IsTest) (opened : Nesting.after {} condition ≠ {}) :
    ∃ front before last, disjuncts condition = front ++ [before ++ [strip last]] ∧
      disjuncts (condition ++ (conjunction ++ test)) =
        front ++ [before ++ [strip (last ++ (conjunction ++ test))]] := by
  obtain ⟨front, lexemes, parted⟩ :=
    exists_splitOnP_eq_concat (connects "OR") (read {} condition)
  have inner : (Nesting.after {} condition).isOuter = false := by
    rwa [← Bool.not_eq_true, Nesting.isOuter_iff]
  have joined := splitOnP_append_quiet parted
    ((Lexeme.quiet_conjunction (Nesting.after {} condition)).append
      (Lexeme.quiet_read isTest (Nesting.after {} condition)).1)
  obtain ⟨before, last, conjoined, glued⟩ :=
    Lexeme.conjuncts_append_open isTest inner lexemes
  refine ⟨front.map Lexeme.conjuncts, before, last, ?_, ?_⟩
  · rw [disjuncts, parted, List.map_append, List.map_singleton, conjoined]
  · rw [disjuncts, read_joined, joined, List.map_append, List.map_singleton, glued]

/-- Conjuncts are pieces of the condition. -/
theorem infix_of_mem_disjuncts {disjunct : List Text} (listed : disjunct ∈ disjuncts condition)
    {conjunct : Text} (member : conjunct ∈ disjunct) : conjunct <:+: condition := by
  have spelled : ∀ {part whole : List Lexeme}, part <:+: whole →
      Lexeme.spell part <:+: Lexeme.spell whole := by
    rintro part whole ⟨before, after, rfl⟩
    exact ⟨Lexeme.spell before, Lexeme.spell after, by simp⟩
  obtain ⟨lexemes, lexemesListed, rfl⟩ := List.mem_map.mp listed
  obtain ⟨piece, pieceListed, rfl⟩ := List.mem_map.mp member
  have within := spelled ((infix_of_mem_splitOnP pieceListed).trans
    (infix_of_mem_splitOnP lexemesListed))
  rw [Lexeme.spell_read] at within
  exact (infix_of_strip _).trans within

theorem disjuncts_test (isTest : test.IsTest) : disjuncts test = [[test]] := by
  have quiet := Lexeme.quiet_read isTest {}
  rw [disjuncts, List.splitOnP_eq_singleton quiet.1, List.map_singleton, Lexeme.conjuncts,
    List.splitOnP_eq_singleton quiet.2, List.map_singleton, Lexeme.spell_read, isTest.stripped]

/-- Behind a condition, a test makes no disjunct, and the only conjuncts that it makes end
with it. -/
theorem disjuncts_append (isTest : test.IsTest) (condition : Text) :
    (disjuncts (condition ++ (conjunction ++ test))).length = (disjuncts condition).length ∧
      ∀ disjunct ∈ disjuncts (condition ++ (conjunction ++ test)), ∀ conjunct ∈ disjunct,
        (∃ other ∈ disjuncts condition, conjunct ∈ other) ∨ test <:+ conjunct := by
  by_cases closed : Nesting.after {} condition = {}
  · obtain ⟨front, last, before, behind⟩ := disjuncts_append_test isTest closed
    rw [before, behind]
    refine ⟨by simp, ?_⟩
    intro disjunct listed conjunct member
    rcases List.mem_append.mp listed with earlier | final
    · exact .inl ⟨disjunct, List.mem_append_left _ earlier, member⟩
    · rw [List.mem_singleton.mp final] at member
      rcases List.mem_append.mp member with old | new
      · exact .inl ⟨last, by simp, old⟩
      · rw [List.mem_singleton.mp new]
        exact .inr List.suffix_rfl
  · obtain ⟨front, others, last, before, behind⟩ := disjuncts_append_open isTest closed
    rw [before, behind]
    refine ⟨by simp, ?_⟩
    intro disjunct listed conjunct member
    rcases List.mem_append.mp listed with earlier | final
    · exact .inl ⟨disjunct, List.mem_append_left _ earlier, member⟩
    · rw [List.mem_singleton.mp final] at member
      rcases List.mem_append.mp member with old | new
      · exact .inl ⟨others ++ [strip last], by simp, by simp [old]⟩
      · rw [List.mem_singleton.mp new, ← List.append_assoc]
        rw [strip_append isTest.stripped isTest.nonempty]
        exact .inr (List.suffix_append _ _)

/-! ## What conditions imply -/

/-- The test is no conjunct of the condition. -/
def Hides (condition test : Text) : Prop :=
  ∀ disjunct ∈ disjuncts condition, test ∉ disjunct

/-- A test in front of a condition that does not repeat it is implied exactly if the condition
has one disjunct. -/
theorem implies_front_iff (isTest : test.IsTest) (hidden : Hides condition test) :
    Implies (test ++ (conjunction ++ condition)) test ↔ (disjuncts condition).length = 1 := by
  obtain ⟨first, others, read⟩ := exists_disjuncts_eq_cons condition
  rw [implies_iff, disjuncts_test_append isTest read, read, List.length_cons, Nat.add_eq_right,
    List.length_eq_zero_iff]
  constructor
  · intro everywhere
    rw [List.eq_nil_iff_forall_not_mem]
    intro disjunct listed
    have conjunct := everywhere disjunct (List.mem_cons_of_mem _ listed)
    exact hidden disjunct (read ▸ List.mem_cons_of_mem _ listed) conjunct
  · rintro rfl
    simp

/-- What stands in front of a condition does not matter to what the condition implies. -/
theorem implies_behind_iff {front : Text} (isTest : front.IsTest) (other : front ≠ test) :
    Implies (front ++ (conjunction ++ condition)) test ↔ Implies condition test := by
  obtain ⟨first, others, read⟩ := exists_disjuncts_eq_cons condition
  have different : test ≠ front := other.symm
  rw [implies_iff, implies_iff, disjuncts_test_append isTest read, read]
  simp [different]

/-- A test behind a condition that does not repeat it is implied exactly if the condition has
one disjunct and leaves nothing open. -/
theorem implies_back_iff (isTest : test.IsTest) (hidden : Hides condition test) :
    Implies (condition ++ (conjunction ++ test)) test ↔
      (disjuncts condition).length = 1 ∧ Nesting.after {} condition = {} := by
  rw [implies_iff]
  by_cases closed : Nesting.after {} condition = {}
  · obtain ⟨front, last, before, behind⟩ := disjuncts_append_test isTest closed
    rw [behind, before, List.length_append, List.length_singleton, Nat.add_eq_right,
      List.length_eq_zero_iff]
    constructor
    · intro everywhere
      refine ⟨List.eq_nil_iff_forall_not_mem.mpr fun disjunct listed => ?_, closed⟩
      exact hidden disjunct (before ▸ List.mem_append_left _ listed)
        (everywhere disjunct (List.mem_append_left _ listed))
    · rintro ⟨rfl, -⟩
      simp
  · obtain ⟨front, others, last, before, behind⟩ := disjuncts_append_open isTest closed
    rw [behind]
    constructor
    · intro everywhere
      have conjunct := everywhere (others ++ [strip (last ++ (conjunction ++ test))]) (by simp)
      rcases List.mem_append.mp conjunct with old | new
      · have listed : others ++ [strip last] ∈ disjuncts condition := by
          rw [before]
          exact List.mem_append_right _ (List.mem_singleton_self _)
        exact absurd (List.mem_append_left _ old) (hidden _ listed)
      · -- The conjunct has the keyword of the conjunction in it as well.
        exact absurd (List.mem_singleton.mp new) (ne_strip_conjunction isTest last)
    · exact fun both => absurd both.2 closed

/-! ### A condition between tests -/

/-- A condition with a test in front of it and a test behind it, each of which may be left out,
as may the condition. -/
def between (front : Option Text) (condition : Text) (back : Option Text) : Text :=
  join conjunction (front.toList ++ (if condition = [] then [] else [condition]) ++ back.toList)

/-- The test in front is implied exactly if the condition has one disjunct. -/
theorem implies_front (isTest : test.IsTest) {back : Option Text}
    (others : ∀ other ∈ back, other.IsTest ∧ ¬other <:+ test) (hidden : Hides condition test) :
    Implies (between (some test) condition back) test ↔ (disjuncts condition).length = 1 := by
  have regroup : ∀ first second third : Text,
      join conjunction [first, second, third] =
        first ++ (conjunction ++ (second ++ (conjunction ++ third))) := by
    intro first second third
    simp
  by_cases absent : condition = []
  · have single : (disjuncts condition).length = 1 := by
      rw [absent]
      decide
    simp only [single, iff_true, implies_iff]
    cases back with
    | none =>
        have alone : between (some test) condition none = test := by simp [between, absent]
        simp [alone, disjuncts_test isTest]
    | some other =>
        have pair : between (some test) condition (some other) =
            test ++ (conjunction ++ other) := by
          simp [between, absent]
        rw [pair, disjuncts_test_append isTest (disjuncts_test (others other rfl).1)]
        simp
  · cases back with
    | none =>
        have pair : between (some test) condition none = test ++ (conjunction ++ condition) := by
          simp [between, absent]
        rw [pair, implies_front_iff isTest hidden]
    | some other =>
        obtain ⟨otherTest, different⟩ := others other rfl
        have whole : between (some test) condition (some other) =
            test ++ (conjunction ++ (condition ++ (conjunction ++ other))) := by
          rw [← regroup]
          simp [between, absent]
        obtain ⟨lengths, conjuncts⟩ := disjuncts_append otherTest condition
        rw [whole, implies_front_iff isTest, lengths]
        intro disjunct listed member
        rcases conjuncts disjunct listed test member with ⟨old, oldListed, within⟩ | ends
        · exact hidden old oldListed within
        · exact different ends

/-- The test behind is implied exactly if the condition has one disjunct and leaves nothing
open. -/
theorem implies_back (isTest : test.IsTest) {front : Option Text}
    (others : ∀ other ∈ front, other.IsTest ∧ other ≠ test) (hidden : Hides condition test) :
    Implies (between front condition (some test)) test ↔
      (disjuncts condition).length = 1 ∧ Nesting.after {} condition = {} := by
  have closing : between none condition (some test) =
      if condition = [] then test else condition ++ (conjunction ++ test) := by
    by_cases absent : condition = [] <;> simp [between, absent]
  have opening : ∀ other, between (some other) condition (some test) =
      other ++ (conjunction ++ between none condition (some test)) := by
    intro other
    by_cases absent : condition = [] <;> simp [between, absent]
  have behind : Implies (between none condition (some test)) test ↔
      (disjuncts condition).length = 1 ∧ Nesting.after {} condition = {} := by
    rw [closing]
    split
    next absent =>
      have empty : (disjuncts condition).length = 1 ∧ Nesting.after {} condition = {} := by
        rw [absent]
        decide
      simp [empty, implies_iff, disjuncts_test isTest]
    next => exact implies_back_iff isTest hidden
  cases front with
  | none => exact behind
  | some other =>
      obtain ⟨otherTest, different⟩ := others other rfl
      rw [opening, implies_behind_iff otherTest different, behind]

end Text

end Inquiry
