import Inquiry.Proofs.Evaluation.Report
import Inquiry.Proofs.Evaluation.Verdict

/-!
# The table of a report

The table has a row for every verdict, and a blank line below it.  A question is put into its row as
it is, up to its first 55 characters.  The table is read back line by line and cell by cell exactly
if no question has a bar or the end of a line among them.

What ends a line is left open: line feeds have to, and nothing but a break may.  The ends and the
bars are counted, since a table with the wrong count cannot be read whatever stands in its lines.
-/

namespace Inquiry

/-! ## Counting parts -/

section Parts

variable {α β : Type}

theorem length_flatMap_ge {parts : α → List β} (nonempty : ∀ x, parts x ≠ [])
    (xs : List α) : xs.length ≤ (xs.flatMap parts).length := by
  induction xs with
  | nil => simp
  | cons x rest ih =>
      have one := List.length_pos_of_ne_nil (nonempty x)
      rw [List.flatMap_cons, List.length_append, List.length_cons]
      omega

/-- If there are no more parts than elements, each element has one. -/
theorem length_eq_one_of_flatMap {parts : α → List β} (nonempty : ∀ x, parts x ≠ [])
    {xs : List α} (few : (xs.flatMap parts).length = xs.length) :
    ∀ x ∈ xs, (parts x).length = 1 := by
  induction xs with
  | nil => exact List.forall_mem_nil _
  | cons x rest ih =>
      have one := List.length_pos_of_ne_nil (nonempty x)
      have others := length_flatMap_ge nonempty rest
      rw [List.flatMap_cons, List.length_append, List.length_cons] at few
      exact List.forall_mem_cons.mpr ⟨by omega, ih (by omega)⟩

end Parts

namespace Evaluation

/-! ## Rows that are read back -/

/-- A line with nine cells, the first of which tells its place. -/
structure IsRow (place : Nat) (line : Text) : Prop where
  starts : "| ".toList ++ Decimal.ofNat place ++ " |".toList <+: line
  cells : ∃ cells, Text.pieces '|' line = [] :: (cells ++ [[]]) ∧ cells.length = 9

/-- A row for every place, and a blank line. -/
def IsTable (count : Nat) (lines : List Text) : Prop :=
  ∃ rows, lines = rows ++ [[]] ∧ List.Forall₂ IsRow (List.range' 1 count) rows

/-- What is shown of the question ends neither a line nor a cell. -/
def IsTidy (ends : Char → Bool) (verdict : Verdict) : Prop :=
  ∀ content, verdict.question = .text content → ∀ c ∈ content.take 55, ends c = false ∧ c ≠ '|'

/-- The line between its outer bars. -/
def inner (place : Nat) (content : Text) (verdict : Verdict) : Text :=
  " ".toList ++ (Decimal.ofNat place ++ (" | ".toList ++ (shown content ++ (" | ".toList ++
    (Text.join " | " ((flags verdict).map cell) ++ " ".toList)))))

variable {place : Nat} {content : Text} {verdict : Verdict}

theorem rowText_eq_inner :
    rowText place content verdict = '|' :: (inner place content verdict ++ '|' :: []) := by
  unfold rowText inner
  simp

theorem count_shown : (shown content).count '|' = (content.take 55).count '|' := by
  rw [shown, List.count_append]
  split <;> simp

theorem count_inner :
    (inner place content verdict).count '|' = 8 + (content.take 55).count '|' := by
  have number : (Decimal.ofNat place).count '|' = 0 :=
    List.count_eq_zero.mpr (not_mem_ofNat rfl place)
  have cells : (Text.join " | " ((flags verdict).map cell)).count '|' = 6 := by
    have cell : ∀ holds, (cell holds).count '|' = 0 := by decide
    simp [flags, cell]
  unfold inner
  simp only [List.count_append, number, cells, count_shown]
  have blank : " ".toList.count '|' = 0 := by decide
  have bar : " | ".toList.count '|' = 1 := by decide
  omega

/-- The row has nine cells exactly if no bar is shown of the question. -/
theorem isRow_rowText_iff :
    IsRow place (rowText place content verdict) ↔ '|' ∉ content.take 55 := by
  have parted : Text.pieces '|' (rowText place content verdict) =
      [] :: (Text.pieces '|' (inner place content verdict) ++ [[]]) := by
    rw [rowText_eq_inner, Text.pieces_cons_mark, Text.pieces_append_mark]
    rfl
  have counted := Text.length_pieces '|' (inner place content verdict)
  rw [count_inner] at counted
  rw [← List.count_eq_zero]
  constructor
  · rintro ⟨-, cells, same, nine⟩
    rw [parted, List.cons.injEq] at same
    rw [List.append_cancel_right same.2] at counted
    omega
  · intro none
    refine ⟨?_, _, parted, by omega⟩
    unfold rowText
    exact ⟨" ".toList ++ (shown content ++ (" | ".toList ++
      (Text.join " | " ((flags verdict).map cell) ++ " |".toList))), by simp⟩

theorem unbroken_rowText_iff {ends : Char → Bool}
    (breaks : ∀ c, ends c = true → Text.isLineBreak c = true) :
    (∀ c ∈ rowText place content verdict, ends c = false) ↔
      ∀ c ∈ content.take 55, ends c = false := by
  have quiet : ∀ text : Text, (∀ c ∈ text, Text.isLineBreak c = false) →
      ∀ c ∈ text, ends c = false := by
    intro text calm c member
    rw [Bool.eq_false_iff]
    intro ended
    have broken := breaks c ended
    rw [calm c member] at broken
    cases broken
  have number : ∀ c ∈ Decimal.ofNat place, ends c = false := quiet _ fun c member => by
    have bounds := Decimal.bounds_of_isDigit (Decimal.isDigit_of_mem_ofNat member)
    simp only [Text.isLineBreak, Bool.or_eq_false_iff, Bool.and_eq_false_iff,
      decide_eq_false_iff_not, beq_eq_false_iff_ne]
    omega
  have cells : ∀ c ∈ Text.join " | " ((flags verdict).map cell), ends c = false := by
    refine quiet _ fun c member => ?_
    have each : ∀ holds, ∀ c ∈ cell holds, Text.isLineBreak c = false := by
      simp [cell, Text.isLineBreak]
    have between : ∀ c ∈ " | ".toList, Text.isLineBreak c = false := by simp [Text.isLineBreak]
    rcases Text.mem_join member with apart | ⟨piece, listed, within⟩
    · exact between c apart
    · obtain ⟨holds, -, rfl⟩ := List.mem_map.mp listed
      exact each holds c within
  have dots : ∀ c ∈ (if 55 < content.length then "...".toList else []), ends c = false := by
    refine quiet _ ?_
    split <;> simp [Text.isLineBreak]
  have opening : ∀ c ∈ "| ".toList, ends c = false := quiet _ (by simp [Text.isLineBreak])
  have between : ∀ c ∈ " | ".toList, ends c = false := quiet _ (by simp [Text.isLineBreak])
  have closing : ∀ c ∈ " |".toList, ends c = false := quiet _ (by simp [Text.isLineBreak])
  unfold rowText shown
  simp only [List.forall_mem_append]
  constructor
  · rintro ⟨⟨⟨⟨-, held, -⟩, -⟩, -⟩, -⟩
    exact held
  · intro held
    exact ⟨⟨⟨⟨⟨⟨opening, number⟩, between⟩, held, dots⟩, between⟩, cells⟩, closing⟩

/-! ## The table as a whole -/

section Table

variable {ends : Char → Bool} (feed : ends '\n' = true)

include feed

/-- The lines of a joined table are its rows exactly if no row is broken. -/
theorem isTable_iff {rows : List Text} :
    IsTable rows.length ((Text.join "\n" (rows ++ [[]])).splitOnP ends) ↔
      (∀ line ∈ rows, ∀ c ∈ line, ends c = false) ∧
        List.Forall₂ IsRow (List.range' 1 rows.length) rows := by
  have lines : (Text.join "\n" (rows ++ [[]])).splitOnP ends =
      rows.flatMap (List.splitOnP ends) ++ [[]] := by
    rw [Text.splitOnP_join feed (by simp), List.flatMap_append]
    simp
  constructor
  · rintro ⟨others, same, table⟩
    rw [lines] at same
    have parts : rows.flatMap (List.splitOnP ends) = others := List.append_cancel_right same
    have few : (rows.flatMap (List.splitOnP ends)).length = rows.length := by
      rw [parts, ← table.length_eq, List.length_range']
    have unbroken : ∀ line ∈ rows, ∀ c ∈ line, ends c = false := by
      intro line member
      have one := length_eq_one_of_flatMap (List.splitOnP_ne_nil ends) few line member
      rw [length_splitOnP, Nat.add_eq_right, List.countP_eq_zero] at one
      simpa using one
    rw [Text.flatMap_splitOnP unbroken] at parts
    exact ⟨unbroken, parts ▸ table⟩
  · rintro ⟨unbroken, table⟩
    exact ⟨rows, by rw [lines, Text.flatMap_splitOnP unbroken], table⟩

end Table

/-- Rows that are written for verdicts are unbroken and read back exactly if the verdicts are
tidy. -/
theorem forall_isTidy_iff {ends : Char → Bool}
    (breaks : ∀ c, ends c = true → Text.isLineBreak c = true) {verdicts : List Verdict}
    {position : Nat} {rows : List Text} (written : rowsFrom position verdicts = .ok rows) :
    (∀ verdict ∈ verdicts, IsTidy ends verdict) ↔
      (∀ line ∈ rows, ∀ c ∈ line, ends c = false) ∧
        List.Forall₂ IsRow (List.range' position rows.length) rows := by
  induction verdicts generalizing position rows with
  | nil =>
      obtain rfl : [] = rows := Outcome.pure_eq_ok.mp written
      simp
  | cons verdict rest ih =>
      obtain ⟨first, firstRow, written⟩ := Outcome.bind_eq_ok.mp written
      obtain ⟨others, otherRows, written⟩ := Outcome.bind_eq_ok.mp written
      obtain rfl := Outcome.pure_eq_ok.mp written
      obtain ⟨content, given, rfl⟩ := row_eq_ok.mp firstRow
      have tidy : IsTidy ends verdict ↔
          (∀ c ∈ rowText position content verdict, ends c = false) ∧
            IsRow position (rowText position content verdict) := by
        rw [unbroken_rowText_iff breaks, isRow_rowText_iff]
        constructor
        · intro neat
          have each := neat content given
          exact ⟨fun c member => (each c member).1, fun member => (each '|' member).2 rfl⟩
        · rintro ⟨unbroken, barless⟩ other same c member
          obtain rfl : content = other := Value.text.inj (given.symm.trans same)
          exact ⟨unbroken c member, fun bar => barless (bar ▸ member)⟩
      rw [List.forall_mem_cons, List.forall_mem_cons, tidy, ih otherRows, List.length_cons,
        List.range'_succ, List.forall₂_cons]
      tauto

/-! ## Reports -/

/-- The line between the head of the table and its rows. -/
def separator : Text :=
  "|---|----------|------|------|-----|-------|----------|--------|------|"

/-- The report up to the rows of the table. -/
def aboveRows (clock : Text) (verdicts : List Verdict) : Text :=
  Text.join "\n" (summaryLines clock verdicts ++ exampleTexts verdicts ++ tableHead)

/-- The report from the heading of the failures on. -/
def belowRows (verdicts : List Verdict) : Text :=
  Text.join "\n" (failureTexts verdicts)

theorem separator_suffix (clock : Text) (verdicts : List Verdict) :
    separator <:+ aboveRows clock verdicts := by
  have last : tableHead = tableHead.dropLast ++ [separator] := rfl
  have nonempty :
      summaryLines clock verdicts ++ exampleTexts verdicts ++ tableHead.dropLast ≠ [] := by
    simp [tableHead]
  rw [aboveRows, last, ← List.append_assoc, Text.join_concat nonempty]
  exact List.suffix_append _ _

theorem failures_prefix (verdicts : List Verdict) :
    "## Failures".toList <+: belowRows verdicts := by
  rw [belowRows, failureTexts, Text.join_cons_cons, List.append_assoc]
  exact List.prefix_append _ _

/-- A report on questions that are texts is written, with the rows between its other parts. -/
theorem report_eq_around_rows (clock : Text) {verdicts : List Verdict}
    (asked : ∀ verdict ∈ verdicts, ∃ content, verdict.question = .text content) :
    report clock verdicts = .ok (aboveRows clock verdicts ++ '\n' ::
      (Text.join "\n" (rowTexts verdicts ++ [[]]) ++ '\n' :: belowRows verdicts)) := by
  have above : summaryLines clock verdicts ++ exampleTexts verdicts ++ tableHead ≠ [] := by
    simp [tableHead]
  have below : failureTexts verdicts ≠ [] := List.cons_ne_nil _ _
  have parted : reportLines clock verdicts =
      summaryLines clock verdicts ++ exampleTexts verdicts ++ tableHead ++
        ((rowTexts verdicts ++ [[]]) ++ failureTexts verdicts) := by
    simp only [reportLines, List.append_assoc]
  rw [report_eq asked, parted, Text.join_append above (by simp), Text.join_append (by simp) below]
  rfl

/-- The rows that are written are a table exactly if the verdicts are tidy. -/
theorem isTable_rows_iff {ends : Char → Bool} (feed : ends '\n' = true)
    (breaks : ∀ c, ends c = true → Text.isLineBreak c = true) {verdicts : List Verdict}
    (asked : ∀ verdict ∈ verdicts, ∃ content, verdict.question = .text content) :
    IsTable verdicts.length ((Text.join "\n" (rowTexts verdicts ++ [[]])).splitOnP ends) ↔
      ∀ verdict ∈ verdicts, IsTidy ends verdict := by
  have count : (rowTexts verdicts).length = verdicts.length := by simp [rowTexts]
  rw [forall_isTidy_iff breaks (rowsFrom_eq asked), ← isTable_iff feed, count]

/-- Between the line below the head of the table and the heading of the failures, a report on
questions that are texts has a row for each of them and a blank line, exactly if no question shows
a bar or the end of a line. -/
theorem table_iff_tidy {ends : Char → Bool} (feed : ends '\n' = true)
    (breaks : ∀ c, ends c = true → Text.isLineBreak c = true) (clock : Text)
    {verdicts : List Verdict}
    (asked : ∀ verdict ∈ verdicts, ∃ content, verdict.question = .text content) :
    separator <:+ aboveRows clock verdicts ∧ "## Failures".toList <+: belowRows verdicts ∧
      ∃ region, report clock verdicts =
          .ok (aboveRows clock verdicts ++ '\n' :: (region ++ '\n' :: belowRows verdicts)) ∧
        (IsTable verdicts.length (region.splitOnP ends) ↔
          ∀ verdict ∈ verdicts, IsTidy ends verdict) := by
  exact ⟨separator_suffix clock verdicts, failures_prefix verdicts, _,
    report_eq_around_rows clock asked, isTable_rows_iff feed breaks asked⟩

theorem isLineBreak_of_feed (c : Char) (feed : (c == '\n') = true) : Text.isLineBreak c = true := by
  rw [beq_iff_eq.mp feed]
  rfl

/-- What is said of a question where there is no catalog. -/
def uncatalogued (content : Text) : Verdict :=
  Verdict.refused (.text content) (Report.schemaNotFound .null).message 0

/-- Asks a question where there is no catalog. -/
def askUncatalogued (content : Text) : Except Fault Verdict :=
  Verdict.ofRecord { settings := .ok {}, vocabulary := .ok Vocabulary.bundled } .null
    (.record [("question", .text content)]) 0

theorem table_hello :
    askUncatalogued "hello" = .ok (uncatalogued "hello") ∧ ∃ region,
      report [] [uncatalogued "hello"] = .ok (aboveRows [] [uncatalogued "hello"] ++ '\n' ::
        (region ++ '\n' :: belowRows [uncatalogued "hello"])) ∧
      IsTable 1 (region.splitOnP (· == '\n')) := by
  have asked : ∀ verdict ∈ [uncatalogued "hello"], ∃ content, verdict.question = .text content :=
    List.forall_mem_singleton.mpr ⟨_, rfl⟩
  obtain ⟨-, -, region, reported, table⟩ := table_iff_tidy rfl isLineBreak_of_feed [] asked
  refine ⟨rfl, region, reported, table.mpr (List.forall_mem_singleton.mpr ?_)⟩
  rintro content same
  obtain rfl : "hello".toList = content := Value.text.inj same
  simp

/-- A question in two lines breaks its row. -/
theorem table_broken :
    askUncatalogued "hello\nworld" = .ok (uncatalogued "hello\nworld") ∧ ∃ region,
      report [] [uncatalogued "hello\nworld"] =
        .ok (aboveRows [] [uncatalogued "hello\nworld"] ++ '\n' ::
          (region ++ '\n' :: belowRows [uncatalogued "hello\nworld"])) ∧
      ¬IsTable 1 (region.splitOnP (· == '\n')) := by
  have asked : ∀ verdict ∈ [uncatalogued "hello\nworld"],
      ∃ content, verdict.question = .text content := List.forall_mem_singleton.mpr ⟨_, rfl⟩
  refine ⟨rfl, _, report_eq_around_rows [] asked, fun table => ?_⟩
  have tidy := (isTable_rows_iff (by rfl) isLineBreak_of_feed asked).mp table _ List.mem_cons_self
  have feed := (tidy _ rfl '\n' (by decide)).1
  cases feed

end Evaluation

end Inquiry
