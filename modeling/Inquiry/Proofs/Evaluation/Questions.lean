import Inquiry.Evaluation.Run
import Inquiry.Proofs.Json.Beginning
import Inquiry.Proofs.Text.Lines

/-!
# Files of questions

A file of questions holds one object a line, with blank lines anywhere between them.  It is cut at
every break, and JSON lets three of them stand within a text as they are: an object that is written
with one of them is torn, and its beginning is no JSON.  An object is also not read if an integer in
it has too many digits.  All other files are read as the objects that were written, in order.
-/

namespace Inquiry.Evaluation

/-- The breaks that JSON lets stand within a text. -/
def separators : List Char :=
  ['\u0085', '\u2028', '\u2029']

/-- An object that is written without a line feed and without a carriage return. -/
structure Record where
  text : Text
  entries : List (Value × Value)
  /-- The digits of the integers in it. -/
  integers : List Text
  encodes : Json.Encodes text (.mapping entries) integers
  feedless : '\n' ∉ text
  returnless : '\r' ∉ text

namespace Record

/-- The object that is written. -/
def value (record : Record) : Value :=
  .mapping record.entries

/-- Stands on one line, and holds no integer of too many digits. -/
def IsReadable (record : Record) : Prop :=
  (∀ c ∈ separators, c ∉ record.text) ∧
    ∀ digits ∈ record.integers, digits.length ≤ Decimal.digitLimit

end Record

/-- A file with a line for every record, in order, and blank lines. -/
inductive FileOf : Text → List Record → Prop where
  | empty : FileOf [] []
  | blank {blanks file : Text} {records : List Record}
      (all : ∀ c ∈ blanks, Text.isBlank c = true) (rest : FileOf file records) :
      FileOf (blanks ++ '\n' :: file) records
  | record (record : Record) {file : Text} {records : List Record} (rest : FileOf file records) :
      FileOf (record.text ++ '\n' :: file) (record :: records)

/-- The values are read if the condition holds, and there is a fault otherwise. -/
def ReadsWhen (readable : Prop) (values : List Value) (result : Except Fault (List Value)) : Prop :=
  (readable → result = .ok values) ∧ (¬readable → ∃ fault, result = .error fault)

/-! ## Lines with a record -/

/-- The lines that are not blank. -/
def recordLines (text : Text) : List Text :=
  (Text.lines (Text.unifyNewlines text)).filter fun line => !(Text.strip line).isEmpty

/-- Reads one line. -/
def readRecord (line : Text) : Except Fault Value :=
  (Json.parse line).mapError Fault.ofReadError

theorem readQuestions_eq (text : Text) :
    readQuestions text = (recordLines text).mapM readRecord := rfl

theorem recordLines_append_feed (text rest : Text) :
    recordLines (text ++ '\n' :: rest) = recordLines (text ++ ['\n']) ++ recordLines rest := by
  obtain ⟨front, unified⟩ := Text.exists_unifyNewlines_append_feed text
  rw [recordLines, recordLines, unified, unified, Text.lines, Text.linesFrom_append_feed,
    List.filter_append]
  rfl

theorem recordLines_blanks {blanks : Text} (all : ∀ c ∈ blanks, Text.isBlank c = true) :
    recordLines (blanks ++ ['\n']) = [] := by
  have ended : ∀ c ∈ blanks ++ ['\n'], Text.isBlank c = true := by
    simp only [List.forall_mem_append, List.forall_mem_singleton]
    exact ⟨all, rfl⟩
  rw [recordLines, List.filter_eq_nil_iff]
  intro line member
  have blank := Text.blank_linesFrom (List.forall_mem_nil _) (Text.blank_unifyNewlines ended) line
    member
  simp [Text.strip_eq_nil_iff.mpr blank]

theorem readQuestions_append_feed (text rest : Text) :
    readQuestions (text ++ '\n' :: rest) = (do
      let front ← readQuestions (text ++ ['\n'])
      let others ← readQuestions rest
      return front ++ others) := by
  rw [readQuestions_eq, recordLines_append_feed, List.mapM_append]
  rfl

section Record

variable {record : Record}

/-- A break that is written within an object is one of the separators. -/
theorem mem_separators {c : Char} (member : c ∈ record.text)
    (breaks : Text.isLineBreak c = true) : c ∈ separators := by
  have written := record.encodes.isWritten c member
  have feed : c ≠ '\n' := fun same => record.feedless (same ▸ member)
  have returned : c ≠ '\r' := fun same => record.returnless (same ▸ member)
  have noGap : Json.isGap c = false := by
    have other : c ≠ ' ' ∧ c ≠ '\t' := by
      constructor <;> (rintro rfl; cases breaks)
    simp [Json.isGap, feed, returned, other]
  have noControl : 32 ≤ c.toNat := by simpa [Json.isWritten, noGap] using written
  have point : c.toNat = 0x85 ∨ c.toNat = 0x2028 ∨ c.toNat = 0x2029 := by
    simp only [Text.isLineBreak, Bool.or_eq_true, Bool.and_eq_true, decide_eq_true_eq,
      beq_iff_eq] at breaks
    omega
  rw [separators, List.mem_cons, List.mem_cons, List.mem_singleton]
  rcases point with next | line | paragraph
  · exact .inl (Char.toNat_inj.mp next)
  · exact .inr (.inl (Char.toNat_inj.mp line))
  · exact .inr (.inr (Char.toNat_inj.mp paragraph))

theorem unbroken_iff :
    (∀ c ∈ separators, c ∉ record.text) ↔ ∀ c ∈ record.text, Text.isLineBreak c = false := by
  constructor
  · intro apart c member
    rw [Bool.eq_false_iff]
    exact fun breaks => apart c (mem_separators member breaks) member
  · intro unbroken c listed member
    have breaks : ∀ c ∈ separators, Text.isLineBreak c = true := by
      simp [separators, Text.isLineBreak]
    have other := unbroken c member
    rw [breaks c listed] at other
    cases other

theorem unifyNewlines_record : Text.unifyNewlines (record.text ++ ['\n']) = record.text ++ ['\n'] :=
  Text.unifyNewlines_of_not_mem (by simp [record.returnless])

theorem strip_ne_nil_of_brace {text : Text} (brace : '\x7b' ∈ text) :
    Text.strip text ≠ [] := by
  intro blank
  have inked := Text.strip_eq_nil_iff.mp blank _ brace
  cases inked

/-- A record without breaks is its line. -/
theorem recordLines_of_unbroken (unbroken : ∀ c ∈ record.text, Text.isLineBreak c = false) :
    recordLines (record.text ++ ['\n']) = [record.text] := by
  have spoken : Text.strip record.text ≠ [] := by
    obtain ⟨before, rest, same, -⟩ := record.encodes.exists_brace
    exact strip_ne_nil_of_brace (by simp [same])
  rw [recordLines, unifyNewlines_record, Text.lines,
    Text.linesFrom_append_break rfl (by decide) unbroken]
  simp [Text.lines, Text.linesFrom, spoken]

/-- A record with breaks is torn at the first of them, and its first line is no JSON. -/
theorem exists_torn {c : Char} (member : c ∈ record.text) (breaks : Text.isLineBreak c = true) :
    ∃ front others, recordLines (record.text ++ ['\n']) = front :: others ∧
      ∀ found, readRecord front ≠ .ok found := by
  obtain ⟨d, first⟩ := Option.isSome_iff_exists.mp (List.find?_isSome.mpr ⟨c, member, breaks⟩)
  obtain ⟨ends, front, rest, parted, unbroken⟩ := List.find?_eq_some_iff_append.mp first
  have within : d ∈ record.text := by simp [parted]
  have foreign : 128 ≤ d.toNat := by
    have all : ∀ d ∈ separators, 128 ≤ d.toNat := by simp [separators]
    exact all d (mem_separators within ends)
  have brace : '\x7b' ∈ front := by
    obtain ⟨before, after, same, blank⟩ := record.encodes.exists_brace
    have other : '\x7b' ≠ d := (Json.ne_of_foreign foreign (by decide)).symm
    rcases List.append_eq_append_iff.mp (parted.symm.trans same) with
      ⟨middle, rfl, behind⟩ | ⟨middle, rfl, behind⟩
    · cases middle with
      | nil => exact absurd (List.cons.inj behind).1.symm other
      | cons e later =>
          have gap := blank d (by simp [(List.cons.inj behind).1])
          rw [Json.isGap_of_foreign foreign] at gap
          cases gap
    · cases middle with
      | nil => exact absurd (List.cons.inj behind).1 other
      | cons e later =>
          obtain rfl := (List.cons.inj behind).1
          simp
  have cut : recordLines (record.text ++ ['\n']) =
      front :: (Text.lines (rest ++ ['\n'])).filter fun line => !(Text.strip line).isEmpty := by
    have whole : record.text ++ ['\n'] = front ++ d :: (rest ++ ['\n']) := by simp [parted]
    have returned : d ≠ '\r' := Json.ne_of_foreign foreign (by decide)
    rw [recordLines, unifyNewlines_record, whole, Text.lines,
      Text.linesFrom_append_break ends returned (by simpa using unbroken)]
    simp [strip_ne_nil_of_brace brace]
  refine ⟨front, _, cut, fun found read => ?_⟩
  have encodes := record.encodes
  rw [parted] at encodes
  exact Json.parse_ne_ok_of_encodes foreign encodes found (Outcome.mapError_eq_ok.mp read)

/-- The line of a record is read as the object if the record is readable. -/
theorem readsWhen_record (record : Record) :
    ReadsWhen record.IsReadable [record.value] (readQuestions (record.text ++ ['\n'])) := by
  by_cases apart : ∀ c ∈ separators, c ∉ record.text
  · have line : readQuestions (record.text ++ ['\n']) =
        ((Json.reading record.integers record.value).mapError Fault.ofReadError >>= fun found =>
          .ok [found]) := by
      rw [readQuestions_eq, recordLines_of_unbroken (unbroken_iff.mp apart), List.mapM_cons,
        readRecord, Json.parse_of_encodes record.encodes]
      rfl
    rw [line]
    constructor
    · intro readable
      rw [Json.reading_of_short readable.2]
      rfl
    · intro unreadable
      obtain ⟨digits, -, long⟩ :=
        Json.exists_reading_of_long (fun short => unreadable ⟨apart, short⟩) record.value
      exact ⟨_, by rw [long]; rfl⟩
  · have torn : ∃ c, c ∈ record.text ∧ Text.isLineBreak c = true := by
      by_contra none
      refine apart (unbroken_iff.mpr fun c member => ?_)
      exact Bool.eq_false_iff.mpr fun breaks => none ⟨c, member, breaks⟩
    obtain ⟨c, member, breaks⟩ := torn
    obtain ⟨front, others, cut, refused⟩ := exists_torn member breaks
    refine ⟨fun readable => absurd readable.1 apart, fun _ => ?_⟩
    rw [readQuestions_eq, cut, List.mapM_cons]
    cases read : readRecord front with
    | error fault => exact ⟨fault, rfl⟩
    | ok found => exact absurd read (refused found)

end Record

theorem ReadsWhen.append {first second : Prop} {values others : List Value}
    {text rest : Text} (front : ReadsWhen first values (readQuestions (text ++ ['\n'])))
    (behind : ReadsWhen second others (readQuestions rest)) :
    ReadsWhen (first ∧ second) (values ++ others) (readQuestions (text ++ '\n' :: rest)) := by
  rw [readQuestions_append_feed]
  constructor
  · rintro ⟨holds, holdsBehind⟩
    rw [front.1 holds, behind.1 holdsBehind]
    rfl
  · intro fails
    by_cases holds : first
    · obtain ⟨fault, failed⟩ := behind.2 fun later => fails ⟨holds, later⟩
      exact ⟨fault, by rw [front.1 holds, failed]; rfl⟩
    · obtain ⟨fault, failed⟩ := front.2 holds
      exact ⟨fault, by rw [failed]; rfl⟩

theorem readsWhen_of_fileOf {file : Text} {records : List Record} (holds : FileOf file records) :
    ReadsWhen (∀ record ∈ records, record.IsReadable) (records.map Record.value)
      (readQuestions file) := by
  induction holds with
  | empty => exact ⟨fun _ => rfl, fun fails => absurd (List.forall_mem_nil _) fails⟩
  | blank all rest ih =>
      have nothing : ReadsWhen True [] (readQuestions (_ ++ ['\n'])) :=
        ⟨fun _ => by rw [readQuestions_eq, recordLines_blanks all]; rfl,
          fun fails => absurd trivial fails⟩
      simpa using nothing.append ih
  | record record rest ih =>
      simpa using (readsWhen_record record).append ih

/-- A file is read as its records, in order, exactly when each of them stands on one line and has no
integer of too many digits.  Otherwise nothing is read. -/
theorem readQuestions_eq_ok_iff {file : Text} {records : List Record}
    (holds : FileOf file records) :
    (readQuestions file = .ok (records.map Record.value) ↔
        ∀ record ∈ records, record.IsReadable) ∧
      ((∃ record ∈ records, ¬record.IsReadable) →
        ∃ fault, readQuestions file = .error fault) := by
  obtain ⟨readable, unreadable⟩ := readsWhen_of_fileOf holds
  refine ⟨⟨fun read => ?_, readable⟩, ?_⟩
  · by_contra fails
    obtain ⟨fault, failed⟩ := unreadable fails
    rw [read] at failed
    cases failed
  · rintro ⟨record, member, fails⟩
    exact unreadable fun all => fails (all record member)

/-! ## Questions that are written as they are -/

/-- Characters that need no escape. -/
def IsPlain (content : Text) : Prop :=
  ∀ c ∈ content, 32 ≤ c.toNat ∧ c ≠ '\x22' ∧ c ≠ '\\'

theorem IsPlain.quotes {content : Text} (plain : IsPlain content) :
    Json.Quotes content content := by
  induction content with
  | nil => exact .empty
  | cons c rest ih =>
      obtain ⟨⟨noControl, noQuote, noEscape⟩, later⟩ := List.forall_mem_cons.mp plain
      exact .more (.itself noControl noQuote noEscape) (ih later)

theorem IsPlain.not_mem {content : Text} (plain : IsPlain content) {c : Char}
    (control : c.toNat < 32) : c ∉ content :=
  fun member => absurd (plain c member).1 (Nat.not_le.mpr control)

/-- The object of a question alone. -/
def ofQuestion (content : Text) (plain : IsPlain content) : Record where
  text := "\x7b\x22question\x22: \x22".toList ++ (content ++ "\x22\x7d".toList)
  entries := [(.text "question", .text content)]
  integers := []
  encodes := by
    have none : Json.IsGap [] := List.forall_mem_nil _
    have blank : Json.IsGap [' '] := by simp [Json.IsGap, Json.isGap]
    have key : IsPlain "question" := by simp [IsPlain]
    have member := Json.Writes.lastMember none key.quotes none blank (.text plain.quotes) none
    exact ⟨[], _, [], by simp, none, none, .mapping member⟩
  feedless := by simp [plain.not_mem (c := '\n') (by decide)]
  returnless := by simp [plain.not_mem (c := '\r') (by decide)]

theorem text_ofQuestion {content : Text} (plain : IsPlain content) :
    (ofQuestion content plain).text =
      "\x7b\x22question\x22: \x22".toList ++ (content ++ "\x22\x7d".toList) := rfl

/-- Of a question that is written as it is, the question decides. -/
theorem isReadable_ofQuestion {content : Text} (plain : IsPlain content) :
    (ofQuestion content plain).IsReadable ↔ ∀ c ∈ separators, c ∉ content := by
  have absent : ∀ c ∈ separators,
      c ∉ "\x7b\x22question\x22: \x22".toList ∧ c ∉ "\x22\x7d".toList := by
    simp [separators]
  have parted : ∀ c, c ∈ (ofQuestion content plain).text ↔
      c ∈ "\x7b\x22question\x22: \x22".toList ∨ c ∈ content ∨ c ∈ "\x22\x7d".toList :=
    fun c => by rw [text_ofQuestion, List.mem_append, List.mem_append]
  constructor
  · rintro ⟨apart, -⟩ c listed member
    exact apart c listed ((parted c).mpr (.inr (.inl member)))
  · intro apart
    refine ⟨fun c listed member => ?_, List.forall_mem_nil _⟩
    rcases (parted c).mp member with front | within | behind
    · exact (absent c listed).1 front
    · exact apart c listed within
    · exact (absent c listed).2 behind

/-- A question of one word. -/
def hello : Record :=
  ofQuestion "hello" (by simp [IsPlain])

/-- A question with a line separator between its words. -/
def separated : Record :=
  ofQuestion "hello\u2028world" (by simp [IsPlain])

/-- A question with a blank line behind it is read. -/
theorem readQuestions_hello :
    FileOf (hello.text ++ '\n' :: [' ', '\n']) [hello] ∧
      (∀ record ∈ [hello], record.IsReadable) ∧
      readQuestions (hello.text ++ '\n' :: [' ', '\n']) =
        .ok [.mapping [(.text "question", .text "hello")]] := by
  have blank : ∀ c ∈ [' '], Text.isBlank c = true := by simp [Text.isBlank]
  have file := FileOf.record hello (FileOf.blank blank .empty)
  have short : ∀ record ∈ [hello], record.IsReadable :=
    List.forall_mem_singleton.mpr ((isReadable_ofQuestion _).mpr (by simp [separators]))
  exact ⟨file, short, (readQuestions_eq_ok_iff file).1.mpr short⟩

/-- A question with a line separator is written on one line, and its file is not read. -/
theorem readQuestions_separated :
    FileOf (separated.text ++ ['\n']) [separated] ∧
      readQuestions (separated.text ++ ['\n']) ≠ .ok [separated.value] := by
  have file := FileOf.record separated .empty
  refine ⟨file, fun read => ?_⟩
  have torn : ¬∀ record ∈ [separated], record.IsReadable := by
    intro readable
    have apart := (isReadable_ofQuestion _).mp (readable separated List.mem_cons_self)
    exact apart '\u2028' (by simp [separators]) (by simp)
  obtain ⟨fault, failed⟩ := (readsWhen_of_fileOf file).2 torn
  rw [read] at failed
  cases failed

end Inquiry.Evaluation
