import Inquiry.Evaluation.Run
import Inquiry.Proofs.Evaluation.Table
import Inquiry.Proofs.Text.Unbroken

/-!
# What is read off the lines of a run

The output of a run and its report are texts, and a reader finds the parts in their lines: the
progress in front of the first blank line that is printed, the count in the last line, the rows
below the last separator, the failures below their last heading.

A question, or the message of a refusal, is written as it is, so one with a line feed makes lines of
its own, and they can look like any other.  Where none has a line feed, the lines that are read are
those that were written.  The count in the last line is read whatever the questions are.
-/

namespace Inquiry

/-- The question and the message of the refusal are in one line. -/
structure Verdict.IsUnbroken (verdict : Verdict) : Prop where
  content : verdict.content.Unbroken
  error : ∀ message, verdict.error = some message → Text.Unbroken message

namespace Evaluation

open Text (Unbroken feedLines)

/-! ## Reading -/

/-- The lines up to the first that is blank. -/
def untilBlank (lines : List Text) : List Text :=
  lines.takeWhile fun line => !line.isEmpty

/-- The lines behind the last one that is the mark. -/
def behindLast (mark : Text) (lines : List Text) : List Text :=
  lines.rtakeWhile fun line => line != mark

/-- The printed lines between the first one and the first that is blank. -/
def progressOf (output : Text) : List Text :=
  untilBlank (feedLines output).tail

/-- The line that was printed last. -/
def lastLine? (output : Text) : Option Text :=
  (feedLines output).dropLast.getLast?

/-- A line that counts the verdicts that pass. -/
def isOverall (line : Text) : Bool :=
  "| Overall success |".toList.isPrefixOf line

/-- The first line of a report that counts the verdicts that pass. -/
def overallOf? (report : Text) : Option Text :=
  (feedLines report).find? isOverall

/-- The lines of a report between its last separator and the next that is blank. -/
def rowsOf (report : Text) : List Text :=
  untilBlank (behindLast separator (feedLines report))

/-- The lines of a report below the last heading of the failures and a blank line. -/
def failuresOf (report : Text) : List Text :=
  (behindLast "## Failures" (feedLines report)).tail

theorem untilBlank_append {front : List Text} (written : ∀ line ∈ front, line.isEmpty = false)
    (behind : List Text) : untilBlank (front ++ [] :: behind) = front := by
  have passed : ∀ line ∈ front, (!line.isEmpty) = true := by simpa using written
  rw [untilBlank, List.takeWhile_append_of_pos passed, List.takeWhile_cons_of_neg (by simp),
    List.append_nil]

theorem behindLast_append {mark : Text} {behind : List Text}
    (other : ∀ line ∈ behind, (line != mark) = true) (front : List Text) :
    behindLast mark (front ++ mark :: behind) = behind := by
  have passed : ∀ line ∈ behind.reverse, (line != mark) = true := by simpa using other
  rw [behindLast, List.rtakeWhile, List.reverse_append, List.reverse_cons, List.append_assoc,
    List.takeWhile_append_of_pos passed, List.singleton_append,
    List.takeWhile_cons_of_neg (by simp), List.append_nil, List.reverse_reverse]

/-! ## Printed lines -/

/-- What stands behind the place of a question. -/
def status (line : Text) : Text :=
  ((line.dropWhile fun c => c != ']').drop 2).take 4

/-- The status of a verdict. -/
def statusOf (verdict : Verdict) : Text :=
  if verdict.success then "PASS" else "FAIL"

theorem statusOf_eq_pass_iff {verdict : Verdict} :
    statusOf verdict = "PASS".toList ↔ verdict.success = true := by
  rw [statusOf]
  cases verdict.success <;> decide

theorem statusOf_eq_fail_iff {verdict : Verdict} :
    statusOf verdict = "FAIL".toList ↔ verdict.success = false := by
  rw [statusOf]
  cases verdict.success <;> decide

/-- The line printed for a question that is a text. -/
def progressText (position total : Nat) (verdict : Verdict) : Text :=
  "  [" ++ Text.padLeft 2 (Decimal.ofNat position) ++ "/" ++ Decimal.ofNat total ++ "] " ++
    statusOf verdict ++ "  " ++ Text.padRight 60 (verdict.content.take 60) ++ "  " ++
    Text.padLeft 4 (Decimal.ofInt verdict.latency) ++ "ms"

/-- The lines printed for the questions. -/
def progressTexts (verdicts : List Verdict) : List Text :=
  (verdicts.zipIdx 1).map fun numbered => progressText numbered.2 verdicts.length numbered.1

/-- Everything that is printed. -/
def outputLines (reportPath : Text) (verdicts : List Verdict) : List Text :=
  openingLine verdicts.length :: progressTexts verdicts ++
    closingLines reportPath (verdicts.countP (·.success)) verdicts.length

/-- A line is printed for a question exactly if it is a text. -/
theorem progressLine_eq_ok {position total : Nat} {verdict : Verdict} {line : Text} :
    progressLine position total verdict = .ok line ↔
      (∃ content, verdict.question = .text content) ∧
        line = progressText position total verdict := by
  rw [progressLine, Outcome.bind_eq_ok]
  constructor
  · rintro ⟨short, shortened, printed⟩
    obtain ⟨content, given, rfl⟩ := shortQuestion_eq_ok.mp shortened
    obtain rfl := Outcome.pure_eq_ok.mp printed
    have same : verdict.content = content := by rw [Verdict.content, given]; rfl
    refine ⟨⟨content, given⟩, ?_⟩
    rw [ite_self, List.append_nil]
    unfold progressText
    rw [same]
    rfl
  · rintro ⟨asks, rfl⟩
    refine ⟨verdict.content.take 60, shortQuestion_eq_ok.mpr
      ⟨_, Verdict.question_eq asks, by simp⟩, rfl⟩

theorem status_append {front : Text} (absent : ']' ∉ front) (verdict : Verdict) (behind : Text) :
    status (front ++ ']' :: ' ' :: (statusOf verdict ++ behind)) = statusOf verdict := by
  have passed : ∀ c ∈ front, (c != ']') = true := by
    intro c member
    exact bne_iff_ne.mpr fun same => absent (same ▸ member)
  have four : (statusOf verdict).length = 4 := by
    rw [statusOf]
    cases verdict.success <;> rfl
  rw [status, List.dropWhile_append_of_pos passed, ← four]
  exact List.take_left

/-- Whatever the question is, its line tells whether it passes. -/
theorem status_progressText (position total : Nat) (verdict : Verdict) :
    status (progressText position total verdict) = statusOf verdict := by
  have place : ']' ∉ Text.padLeft 2 (Decimal.ofNat position) := by
    rw [Text.padLeft, List.mem_append, not_or]
    refine ⟨fun member => ?_, not_mem_ofNat rfl position⟩
    cases List.eq_of_mem_replicate member
  have absent : ']' ∉ "  [".toList ++ (Text.padLeft 2 (Decimal.ofNat position) ++
      ("/".toList ++ Decimal.ofNat total)) := by
    simp [place, not_mem_ofNat]
  have line := status_append absent verdict ("  ".toList ++
    (Text.padRight 60 (verdict.content.take 60) ++
      ("  ".toList ++ (Text.padLeft 4 (Decimal.ofInt verdict.latency) ++ "ms".toList))))
  rw [← line]
  unfold progressText
  simp

theorem map_status (verdicts : List Verdict) :
    (progressTexts verdicts).map status = verdicts.map statusOf := by
  rw [progressTexts, List.map_map]
  conv_rhs => rw [← List.zipIdx_map_fst 1 verdicts, List.map_map]
  refine List.map_congr_left fun numbered _ => ?_
  rw [Function.comp_apply, status_progressText, Function.comp_apply]

theorem unbroken_progressText {verdict : Verdict} (content : verdict.content.Unbroken)
    (position total : Nat) : (progressText position total verdict).Unbroken := by
  have place := (Decimal.unbroken_ofNat position).padLeft 2
  have status : (statusOf verdict).Unbroken := by
    rw [statusOf]
    cases verdict.success <;> decide
  have shown := (content.take 60).padRight 60
  have latency := (Decimal.unbroken_ofInt verdict.latency).padLeft 4
  unfold progressText
  simp only [Text.unbroken_append, place, Decimal.unbroken_ofNat, status, shown, latency]
  decide

section Output

variable {verdicts : List Verdict} {reportPath output : Text}
  (written : output = (outputLines reportPath verdicts).flatMap (· ++ "\n".toList))

include written

theorem feedLines_output : feedLines output =
    openingLine verdicts.length :: ((progressTexts verdicts).flatMap feedLines ++
      (closingLines reportPath (verdicts.countP (·.success)) verdicts.length).flatMap feedLines ++
      [[]]) := by
  have opening : (openingLine verdicts.length).Unbroken := by
    unfold openingLine
    simp only [Text.unbroken_append, Decimal.unbroken_ofNat]
    decide
  rw [written, Text.feedLines_ended, outputLines, List.flatMap_append, List.flatMap_cons,
    Text.feedLines_of_unbroken opening]
  simp only [List.cons_append, List.nil_append]

/-- The progress is read back where no question has a line feed. -/
theorem progressOf_eq (unbroken : ∀ verdict ∈ verdicts, verdict.content.Unbroken) :
    progressOf output = progressTexts verdicts := by
  have lines : ∀ line ∈ progressTexts verdicts, line.Unbroken ∧ line.isEmpty = false := by
    refine List.forall_mem_map.mpr fun numbered member => ⟨?_, ?_⟩
    · exact unbroken_progressText (unbroken _ (List.fst_mem_of_mem_zipIdx member)) _ _
    · rfl
  have closing : ∃ behind, (closingLines reportPath (verdicts.countP (·.success))
      verdicts.length).flatMap feedLines ++ [[]] = [] :: behind := ⟨_, rfl⟩
  obtain ⟨behind, closed⟩ := closing
  rw [progressOf, feedLines_output written, List.tail_cons, List.append_assoc, closed,
    Text.flatMap_feedLines fun line member => (lines line member).1]
  exact untilBlank_append (fun line member => (lines line member).2) behind

/-- The line that is printed last tells the counts. -/
theorem lastLine?_eq : lastLine? output =
    some ("  Success: " ++ Decimal.ofNat (verdicts.countP (·.success)) ++ "/" ++
      Decimal.ofNat verdicts.length) := by
  have count : Unbroken ("  Success: " ++ Decimal.ofNat (verdicts.countP (·.success)) ++ "/" ++
      Decimal.ofNat verdicts.length) := by
    simp only [Text.unbroken_append, Decimal.unbroken_ofNat]
    decide
  have closing : (closingLines reportPath (verdicts.countP (·.success))
      verdicts.length).flatMap feedLines =
      (closingLines reportPath (verdicts.countP (·.success))
        verdicts.length).dropLast.flatMap feedLines ++
        ["  Success: " ++ Decimal.ofNat (verdicts.countP (·.success)) ++ "/" ++
          Decimal.ofNat verdicts.length] := by
    rw [← Text.feedLines_of_unbroken count]
    simp [closingLines]
  rw [lastLine?, feedLines_output written, closing, ← List.cons_append, List.dropLast_concat,
    ← List.append_assoc, ← List.cons_append, List.getLast?_concat]

end Output

/-! ## Lines of a report -/

theorem mem_failureSection {verdicts : List Verdict} {line : Text}
    (member : line ∈ failureSection verdicts) :
    line = noFailures ∨ line = [] ∨ ∃ numbered ∈ failing verdicts,
      line = heading numbered.2 numbered.1.content ∨ line ∈ entryDetails numbered.1 := by
  rw [failureSection, List.mem_append, List.mem_flatMap] at member
  rcases member with stated | ⟨numbered, fails, written⟩
  · refine .inl ?_
    split at stated
    · exact List.mem_singleton.mp stated
    · cases stated
  · simp only [entryText, List.mem_cons, List.mem_append, List.not_mem_nil, or_false] at written
    rcases written with headed | blank | detail | blank
    · exact .inr (.inr ⟨numbered, fails, .inl headed⟩)
    · exact .inr (.inl blank)
    · exact .inr (.inr ⟨numbered, fails, .inr detail⟩)
    · exact .inr (.inl blank)

theorem unbroken_entryDetails {verdict : Verdict} (unbroken : verdict.IsUnbroken) :
    ∀ line ∈ entryDetails verdict, line.Unbroken := by
  have patterns : Unbroken ("**Patterns:** " ++ Text.quotedList verdict.patterns) :=
    Text.unbroken_append.mpr ⟨by decide, Text.unbroken_quotedList _⟩
  rw [entryDetails]
  cases told : verdict.error with
  | none => exact List.forall_mem_singleton.mpr patterns
  | some message =>
      refine List.forall_mem_cons.mpr ⟨?_, List.forall_mem_singleton.mpr patterns⟩
      simp only [Text.unbroken_append, unbroken.error message told]
      decide

theorem starred_of_mem_entryDetails {verdict : Verdict} :
    ∀ line ∈ entryDetails verdict, ∃ rest, line = '*' :: rest := by
  rw [entryDetails]
  cases verdict.error with
  | none => exact List.forall_mem_singleton.mpr ⟨_, rfl⟩
  | some message =>
      exact List.forall_mem_cons.mpr ⟨⟨_, rfl⟩, List.forall_mem_singleton.mpr ⟨_, rfl⟩⟩

/-- No line among the failures looks like one that tells the parts of a report from each other. -/
theorem apart_of_mem_failureSection {verdicts : List Verdict} :
    ∀ line ∈ failureSection verdicts,
      (line != "## Failures".toList) = true ∧ (line != separator) = true := by
  intro line member
  rcases mem_failureSection member with rfl | rfl | ⟨numbered, -, rfl | detail⟩
  · exact ⟨rfl, rfl⟩
  · exact ⟨rfl, rfl⟩
  · exact ⟨rfl, rfl⟩
  · obtain ⟨rest, rfl⟩ := starred_of_mem_entryDetails line detail
    exact ⟨rfl, rfl⟩

theorem ne_failures_of_mem {verdicts : List Verdict} :
    ∀ line ∈ [] :: failureSection verdicts, (line != "## Failures".toList) = true :=
  List.forall_mem_cons.mpr ⟨rfl, fun line member => (apart_of_mem_failureSection line member).1⟩

theorem ne_separator_of_mem {verdicts : List Verdict} :
    ∀ line ∈ rowTexts verdicts ++ [] :: failureTexts verdicts, (line != separator) = true := by
  simp only [failureTexts, List.forall_mem_append, List.forall_mem_cons]
  exact ⟨List.forall_mem_map.mpr fun numbered _ => rfl, rfl, rfl, rfl,
    fun line member => (apart_of_mem_failureSection line member).2⟩

section Report

variable {verdicts : List Verdict} (unbroken : ∀ verdict ∈ verdicts, verdict.IsUnbroken)

include unbroken

theorem unbroken_failureSection : ∀ line ∈ failureSection verdicts, line.Unbroken := by
  intro line member
  rcases mem_failureSection member with rfl | rfl | ⟨numbered, fails, headed⟩
  · decide
  · decide
  · have own := unbroken numbered.1 (List.fst_mem_of_mem_zipIdx (List.mem_of_mem_filter fails))
    rcases headed with rfl | detail
    · unfold heading
      simp only [Text.unbroken_append, Decimal.unbroken_ofNat, own.content]
      decide
    · exact unbroken_entryDetails own line detail

theorem unbroken_rowTexts : ∀ line ∈ rowTexts verdicts, line.Unbroken := by
  refine List.forall_mem_map.mpr fun numbered member => Text.unbroken_iff.mpr ?_
  have own := unbroken numbered.1 (List.fst_mem_of_mem_zipIdx member)
  exact (unbroken_rowText_iff isLineBreak_of_feed).mpr (Text.unbroken_iff.mp (own.content.take 55))

/-- Whatever stands above the rows, the report goes on with them line by line. -/
theorem exists_feedLines_report (clock : Text) : ∃ above,
    feedLines (Text.join "\n" (reportLines clock verdicts)) =
      above ++ separator :: (rowTexts verdicts ++ [] :: failureTexts verdicts) := by
  have below : ∀ line ∈ separator :: (rowTexts verdicts ++ [] :: failureTexts verdicts),
      line.Unbroken := by
    simp only [failureTexts, List.forall_mem_cons, List.forall_mem_append]
    exact ⟨by decide, unbroken_rowTexts unbroken, by decide, by decide, by decide,
      unbroken_failureSection unbroken⟩
  have parted : reportLines clock verdicts =
      (summaryLines clock verdicts ++ exampleTexts verdicts ++ tableHead.dropLast) ++
        separator :: (rowTexts verdicts ++ [] :: failureTexts verdicts) := by
    have last : tableHead = tableHead.dropLast ++ [separator] := rfl
    rw [reportLines, last]
    simp only [List.append_assoc, List.cons_append, List.nil_append, List.dropLast_concat]
  rw [Text.feedLines_join (by simp [parted]), parted, List.flatMap_append,
    Text.flatMap_feedLines below]
  exact ⟨_, rfl⟩

end Report

section Report

variable {verdicts : List Verdict} (unbroken : ∀ verdict ∈ verdicts, verdict.IsUnbroken)
  {clock report : Text} (written : report = Text.join "\n" (reportLines clock verdicts))

include unbroken written

/-- The rows are read back where nothing that is reported has a line feed. -/
theorem rowsOf_eq : rowsOf report = rowTexts verdicts := by
  obtain ⟨above, lines⟩ := exists_feedLines_report unbroken clock
  have rows : ∀ line ∈ rowTexts verdicts, line.isEmpty = false :=
    List.forall_mem_map.mpr fun numbered _ => rfl
  rw [rowsOf, written, lines, behindLast_append ne_separator_of_mem, untilBlank_append rows]

/-- The failures are read back where nothing that is reported has a line feed. -/
theorem failuresOf_eq : failuresOf report = failureSection verdicts := by
  obtain ⟨above, lines⟩ := exists_feedLines_report unbroken clock
  have behind : above ++ separator :: (rowTexts verdicts ++ [] :: failureTexts verdicts) =
      (above ++ separator :: (rowTexts verdicts ++ [[]])) ++
        "## Failures".toList :: [] :: failureSection verdicts := by
    simp [failureTexts]
  rw [failuresOf, written, lines, behind, behindLast_append ne_failures_of_mem, List.tail_cons]

end Report

/-- The line of the summary that counts the verdicts that pass. -/
def overallLine (percent : Text) (passed total : Nat) : Text :=
  "| Overall success | **" ++ percent ++ "%** (" ++ Decimal.ofNat passed ++ "/" ++
    Decimal.ofNat total ++ ") |"

theorem unbroken_rateLine {label : Text} (whole : label.Unbroken) (holds : Verdict → Bool)
    (verdicts : List Verdict) : (rateLine label holds verdicts).Unbroken := by
  unfold rateLine
  simp only [Text.unbroken_append, whole, Decimal.unbroken_fixed, Decimal.unbroken_ofNat]
  decide

/-- The lines of a report in front of the first check. -/
def openingLines (clock : Text) (count : Nat) : List Text :=
  ["# Compiler Evaluation Report", [],
   "> Generated: " ++ clock ++ "  |  Questions: **" ++ Decimal.ofNat count ++ "**", [],
   "## Summary", [], "| Check | Value |", "|-------|-------|"]

theorem openingLines_spec {clock : Text} (unbroken : clock.Unbroken) (count : Nat) :
    ∀ line ∈ openingLines clock count, line.Unbroken ∧ isOverall line = false := by
  have generated : Unbroken
      ("> Generated: " ++ clock ++ "  |  Questions: **" ++ Decimal.ofNat count ++ "**") := by
    simp only [Text.unbroken_append, unbroken, Decimal.unbroken_ofNat]
    decide
  unfold openingLines
  simp only [List.forall_mem_cons, generated, true_and]
  exact ⟨by decide, by decide, rfl, by decide, by decide, by decide, by decide, by decide,
    List.forall_mem_nil _⟩

theorem overallOf?_eq {clock : Text} (unbroken : clock.Unbroken) (verdicts : List Verdict) :
    overallOf? (Text.join "\n" (reportLines clock verdicts)) =
      some (rateLine "Overall success" (·.success) verdicts) := by
  have opening := openingLines_spec unbroken verdicts.length
  obtain ⟨behind, parted⟩ : ∃ behind, reportLines clock verdicts =
      openingLines clock verdicts.length ++
        rateLine "Overall success" (·.success) verdicts :: behind := by
    simp only [reportLines, List.append_assoc]
    exact ⟨_, rfl⟩
  have absent : (openingLines clock verdicts.length).find? isOverall = none :=
    List.find?_eq_none.mpr fun line member => by simp [(opening line member).2]
  have found : isOverall (rateLine "Overall success" (·.success) verdicts) = true := rfl
  rw [overallOf?, Text.feedLines_join (by simp [parted]), parted, List.flatMap_append,
    Text.flatMap_feedLines fun line member => (opening line member).1, List.flatMap_cons,
    Text.feedLines_of_unbroken (unbroken_rateLine (by decide) _ verdicts), List.find?_append,
    absent, List.singleton_append, List.find?_cons_of_pos found]
  rfl

/-- The line that counts the verdicts that pass is in the summary once, and it is the first in the
report that looks like it, whatever the questions are. -/
theorem exists_overallLine (clock : Text) (verdicts : List Verdict) :
    ∃ percent,
      (summaryLines clock verdicts).filter isOverall =
          [overallLine percent (verdicts.countP (·.success)) verdicts.length] ∧
        (clock.Unbroken → overallOf? (Text.join "\n" (reportLines clock verdicts)) =
          some (overallLine percent (verdicts.countP (·.success)) verdicts.length)) := by
  exact ⟨_, rfl, fun unbroken => overallOf?_eq unbroken verdicts⟩

end Evaluation

end Inquiry
