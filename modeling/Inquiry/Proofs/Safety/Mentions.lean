import Inquiry.Proofs.Safety.Phrases
import Inquiry.Proofs.Safety.Table
import Inquiry.Proofs.Statement.Names
import Inquiry.Proofs.Statement.Nesting
import Inquiry.Proofs.Text.Component

/-!
# Mentions of tables

A statement mentions a table where `FROM` or `JOIN`, as a word of its own, has blanks and a name
behind it.

The gate looks for mentions at the beginnings of lines alone, where a kind of join may stand in
front of the keyword.  So a statement that passes mentions no foreign table there, but it may
mention one further on in a line.
-/

namespace Inquiry

namespace Safety

/-! ## Lines that begin inside of mentions -/

theorem lineFeed_not_mem_name {name : Text} (named : ∀ c ∈ name, isNameChar c = true) :
    '\n' ∉ name := by
  intro member
  exact absurd (named _ member) (by decide)

/-- A line that begins behind the start of a piece without line feeds begins behind the blanks
that follow the piece. -/
theorem exists_behind_gap {before text solid gap others : Text}
    (whole : before ++ text = solid ++ (gap ++ others)) (line : before.getLast? = some '\n')
    (unbroken : '\n' ∉ solid) (blank : ∀ c ∈ gap, Text.isBlank c = true) (nonempty : text ≠ [])
    (begins : text.head?.any Text.isBlank = false) :
    ∃ middle, others = middle ++ text ∧ (middle = [] ∨ middle.getLast? = some '\n') := by
  rcases List.append_eq_append_iff.mp whole with ⟨middle, rfl, -⟩ | ⟨between, rfl, parted⟩
  · exact absurd (List.mem_append_left _ (List.mem_of_getLast? line)) unbroken
  · rcases List.append_eq_append_iff.mp parted with ⟨middle, rfl, rfl⟩ | ⟨middle, rfl, rfl⟩
    · refine ⟨middle, rfl, ?_⟩
      by_cases empty : middle = []
      · exact .inl empty
      · rw [← List.append_assoc, List.getLast?_append_of_ne_nil _ empty] at line
        exact .inr line
    · cases middle with
      | nil => exact ⟨[], rfl, .inl rfl⟩
      | cons c middle =>
          have inside := blank c (by simp)
          simp [inside] at begins

/-- A line that begins between the keyword and the end of the name begins with the name. -/
theorem eq_name_of_line {before text word gap name rest : Text}
    (whole : before ++ text = word ++ (gap ++ (name ++ rest)))
    (line : before.getLast? = some '\n') (unbroken : '\n' ∉ word)
    (blank : ∀ c ∈ gap, Text.isBlank c = true) (named : ∀ c ∈ name, isNameChar c = true)
    (begins : text.head?.any Text.isBlank = false) (inside : rest.length < text.length) :
    text = name ++ rest := by
  have nonempty : text ≠ [] := List.ne_nil_of_length_pos (by omega)
  obtain ⟨middle, parted, rfl | ends⟩ :=
    exists_behind_gap whole line unbroken blank nonempty begins
  · exact parted.symm
  · have member : '\n' ∈ middle := List.mem_of_getLast? ends
    rcases List.append_eq_append_iff.mp parted with ⟨others, rfl, rfl⟩ | ⟨others, rfl, -⟩
    · rw [List.length_append] at inside
      omega
    · exact absurd (List.mem_append_left _ member) (lineFeed_not_mem_name named)

/-- A name that a mention begins with is its opening keyword. -/
theorem spells_of_opening {name rest other behind : Text}
    (found : tableName? (name ++ rest) = some (other, behind))
    (named : ∀ c ∈ name, isNameChar c = true) (ends : rest.head?.any isNameChar = false) :
    spells openingKeywords name = true := by
  obtain ⟨keyword, listed, word, gap, others, spelling, parted, blank, opened⟩ :=
    exists_opening found
  have gapEnds : (gap ++ others).head?.any isNameChar = false := by
    obtain ⟨c, blanks, rfl⟩ := List.exists_cons_of_ne_nil parted
    simpa using isNameChar_of_isBlank (blank c List.mem_cons_self)
  obtain ⟨taken, -⟩ := Text.span_append named ends
  obtain ⟨wordTaken, -⟩ := Text.span_append (spelling.named listed).2 gapEnds
  rw [opened, wordTaken] at taken
  exact spells_iff.mpr ⟨keyword, listed, taken ▸ spelling⟩

/-- A mention begins with no blank. -/
theorem begins_of_tableName {text name rest : Text} (found : tableName? text = some (name, rest)) :
    text.head?.any Text.isBlank = false := by
  obtain ⟨keyword, listed, word, gap, others, spelling, -, -, rfl⟩ := exists_opening found
  obtain ⟨nonempty, named⟩ := spelling.named listed
  exact solid_append nonempty named _

/-- If a line begins inside of a mention and mentions a table itself, then it mentions the same
table, or the name that was found is a keyword. -/
theorem eq_or_spells_of_covered {before text name rest other behind : Text}
    (found : tableName? (before ++ text) = some (name, rest))
    (line : before.getLast? = some '\n') (again : tableName? text = some (other, behind))
    (inside : rest.length < text.length) :
    other = name ∨ spells openingKeywords name = true := by
  have begins := begins_of_tableName again
  have nonempty : text ≠ [] := List.ne_nil_of_length_pos (by omega)
  obtain ⟨lead, keyword, word, gap, leads, refers, whole⟩ := tableName_eq_some_iff.mp found
  have unbroken :=
    lineFeed_not_mem_name (refers.spelling.named (mem_openingKeywords refers.listed)).2
  have reserved : text = name ++ rest → spells openingKeywords name = true := by
    rintro rfl
    exact spells_of_opening again refers.named refers.ends
  cases leads with
  | nothing =>
      exact .inr (reserved
        (eq_name_of_line whole line unbroken refers.blank refers.named begins inside))
  | @kind kind kindWord kindGap known kindSpelling kindParted kindBlank =>
      have kindNamed := kindSpelling.named (List.mem_append_right _ known)
      rw [List.append_assoc] at whole
      obtain ⟨middle, joined, rfl | ends⟩ := exists_behind_gap whole line
        (lineFeed_not_mem_name kindNamed.2) kindBlank nonempty begins
      · -- The line begins with the keyword of joins, so it mentions the table of the join.
        have same : tableName? text = some (name, rest) :=
          tableName_eq_some_iff.mpr ⟨[], _, _, _, .nothing, refers, joined.symm⟩
        rw [again] at same
        exact .inl (congrArg Prod.fst (Option.some.inj same))
      · exact .inr (reserved
          (eq_name_of_line joined.symm ends unbroken refers.blank refers.named begins inside))

/-- Every table that is mentioned at the beginning of a line has what all tables have that were
read, unless a keyword has it: what the gate skips belongs to a mention that it has read. -/
theorem of_forall_tablesFrom {known : Text → Prop}
    (unreserved : ∀ name, spells openingKeywords name = true → ¬known name)
    {before text name rest : Text} (found : tableName? text = some (name, rest))
    {lineStart : Bool} {covered : Nat} (line : endsLine lineStart before = true)
    (uncovered : covered ≤ before.length)
    (all : ∀ table ∈ tablesFrom lineStart covered (before ++ text), known table) :
    known name := by
  induction before generalizing lineStart covered with
  | nil =>
      obtain rfl : lineStart = true := line
      obtain rfl : covered = 0 := by simpa using uncovered
      cases text with
      | nil => cases found
      | cons c others =>
          rw [List.nil_append, tablesFrom, if_pos rfl, found] at all
          exact all name List.mem_cons_self
  | cons c before ih =>
      have later := line
      rw [endsLine_cons] at later
      cases covered with
      | succ covered =>
          exact ih later (by simpa using uncovered) all
      | zero =>
          rw [List.cons_append, tablesFrom] at all
          cases probed : (if lineStart then tableName? (c :: (before ++ text)) else none) with
          | none =>
              rw [probed] at all
              exact ih later (Nat.zero_le _) all
          | some result =>
              obtain ⟨table, after⟩ := result
              rw [probed] at all
              have read : tableName? (c :: before ++ text) = some (table, after) := by
                cases lineStart with
                | false => cases probed
                | true => exact probed
              by_cases beyond : (before ++ text).length - after.length ≤ before.length
              · exact ih later beyond fun other member => all other (List.mem_cons_of_mem _ member)
              · have ends : (c :: before).getLast? = some '\n' := by
                  cases final : (c :: before).getLast? with
                  | none => simp at final
                  | some last => simpa [endsLine, final] using line
                have inside : after.length < text.length := by
                  rw [List.length_append] at beyond
                  omega
                rcases eq_or_spells_of_covered read ends found inside with rfl | reserved
                · exact all _ List.mem_cons_self
                · exact absurd (all table List.mem_cons_self) (unreserved table reserved)

/-! ## Keywords as names -/

/-- The opening keywords in small letters. -/
def reservedNames : List Text :=
  ["from", "join", "inner", "left", "right", "full", "cross"]

/-- A case of a letter becomes the small letter, or something beyond ASCII. -/
theorem lowerChar_of_isCaseOf {letter c : Char} (capital : letter.isUpper = true)
    (same : isCaseOf letter c = true) : c ≠ 'Σ' ∧ '.' ∉ Text.lowerChar c ∧
      (Text.lowerChar c = [letter.toLower] ∨ ∃ d ∈ Text.lowerChar c, 128 ≤ d.toNat) := by
  simp only [isCaseOf, Bool.or_eq_true, Bool.and_eq_true, beq_iff_eq] at same
  rcases same with ((upper | ⟨rfl, rfl | rfl⟩) | ⟨rfl, rfl⟩) | ⟨rfl, rfl⟩
  · have letterOfAscii : c.isAlpha = true := isAlpha_of_toUpper (upper ▸ capital)
    have ascii : c.toNat < 128 := Text.ascii_of_isAlphanum (by rw [Char.isAlphanum, letterOfAscii]; rfl)
    have small : Text.lowerChar c = [letter.toLower] := by
      rw [Text.lowerChar, if_pos ascii, ← upper, Char.toLower_toUpper_eq_toLower]
    have smallAlpha : letter.toLower.isAlpha = true := by
      rw [← upper, Char.toLower_toUpper_eq_toLower, Char.isAlpha_toLower_eq_isAlpha, letterOfAscii]
    refine ⟨?_, ?_, .inl small⟩
    · rintro rfl
      exact absurd ascii (by decide)
    · rw [small, List.mem_singleton]
      intro point
      rw [← point] at smallAlpha
      exact absurd smallAlpha (by decide)
  · have small : Text.lowerChar '\u0130' = ['i', '\u0307'] := by decide +kernel
    rw [small]
    exact ⟨by decide, by decide, .inr ⟨'\u0307', by decide, by decide⟩⟩
  · have small : Text.lowerChar '\u0131' = ['\u0131'] := by decide +kernel
    rw [small]
    exact ⟨by decide, by decide, .inr ⟨'\u0131', by decide, by decide⟩⟩
  · have small : Text.lowerChar '\u212a' = ['k'] := by decide +kernel
    rw [small]
    exact ⟨by decide, by decide, .inl (by decide)⟩
  · have small : Text.lowerChar '\u017f' = ['\u017f'] := by decide +kernel
    rw [small]
    exact ⟨by decide, by decide, .inr ⟨'\u017f', by decide, by decide⟩⟩

/-- What spells a keyword becomes the keyword in small letters, or something beyond ASCII. -/
theorem Spelling.lower {keyword word : Text} (spelling : Spelling keyword word)
    (capitals : ∀ letter ∈ keyword, letter.isUpper = true) : '.' ∉ Text.lower word ∧
      (Text.lower word = keyword.map Char.toLower ∨ ∃ d ∈ Text.lower word, 128 ≤ d.toNat) := by
  suffices general : ∀ before, '.' ∉ Text.lowerFrom before word ∧
      (Text.lowerFrom before word = keyword.map Char.toLower ∨
        ∃ d ∈ Text.lowerFrom before word, 128 ≤ d.toNat) from general []
  induction spelling with
  | nil => simp [Text.lowerFrom]
  | @cons letter c keyword word same spelling ih =>
      intro before
      rw [List.forall_mem_cons] at capitals
      obtain ⟨plain, pointless, here⟩ := lowerChar_of_isCaseOf capitals.1 same
      obtain ⟨pointlessBehind, behind⟩ := ih capitals.2 (c :: before)
      rw [Text.lowerFrom]
      simp only [if_neg plain]
      refine ⟨List.not_mem_append pointless pointlessBehind, ?_⟩
      rcases here with small | ⟨d, member, beyond⟩
      · rcases behind with others | ⟨d, member, beyond⟩
        · exact .inl (by rw [small, others]; rfl)
        · exact .inr ⟨d, List.mem_append_right _ member, beyond⟩
      · exact .inr ⟨d, List.mem_append_left _ member, beyond⟩

/-- The name is that of a table of the contract, whatever stands before its last point. -/
def InContract (contract : SchemaContract) (name : Text) : Prop :=
  Text.afterLast '.' (Text.lower name) ∈ contract.tables.map Text.lower

/-- If no table is called like a keyword, no keyword names one. -/
theorem not_inContract_of_spells {contract : SchemaContract}
    (ascii : ∀ table ∈ contract.tables, ∀ c ∈ table, c.toNat < 128)
    (unreserved : ∀ table ∈ contract.tables, Text.lower table ∉ reservedNames) {name : Text}
    (reserved : spells openingKeywords name = true) : ¬InContract contract name := by
  have small : openingKeywords.map (fun keyword => keyword.map Char.toLower) = reservedNames := by
    decide
  obtain ⟨keyword, listed, spelling⟩ := spells_iff.mp reserved
  obtain ⟨pointless, cases⟩ := spelling.lower (isUpper_openingKeywords keyword listed)
  intro known
  rw [InContract, Text.afterLast_of_not_mem pointless] at known
  obtain ⟨table, tableListed, same⟩ := List.mem_map.mp known
  rcases cases with lowered | ⟨d, member, beyond⟩
  · apply unreserved table tableListed
    rw [same, lowered, ← small]
    exact List.mem_map_of_mem listed
  · have within := Text.ascii_lower (ascii table tableListed) d (same ▸ member)
    omega

/-! ## What passes -/

/-- A place where a text mentions a table: a keyword as a word of its own, blanks and a name. -/
structure Mention (sql : Text) where
  before : Text
  keyword : Text
  word : Text
  gap : Text
  name : Text
  after : Text
  whole : sql = before ++ (word ++ (gap ++ (name ++ after)))
  starts : startsWord before.getLast? = true
  refers : Refers keyword word gap name after

theorem Refers.begins {lead keyword word gap name rest : Text}
    (refers : Refers keyword word gap name rest) (leads : Leads lead keyword) :
    (lead ++ (word ++ (gap ++ name))).head?.any Text.isBlank = false := by
  cases leads with
  | nothing =>
      obtain ⟨nonempty, named⟩ := refers.spelling.named (mem_openingKeywords refers.listed)
      exact solid_append nonempty named _
  | @kind kind kindWord kindGap listed spelling parted blank =>
      obtain ⟨nonempty, named⟩ := spelling.named (List.mem_append_right _ listed)
      rw [List.append_assoc]
      exact solid_append nonempty named _

theorem Refers.ends_solid {keyword word gap name rest : Text}
    (refers : Refers keyword word gap name rest) (before : Text) :
    (before ++ name).getLast?.any Text.isBlank = false := by
  obtain ⟨others, last, same⟩ := (List.eq_nil_or_concat' name).resolve_left refers.nonempty
  have solid := isBlank_of_isNameChar (refers.named last (by simp [same]))
  rw [same, ← List.append_assoc, List.getLast?_concat]
  simpa using solid

namespace Mention

variable {sql : Text}

/-- The mention stands outside parentheses and literals. -/
def IsOuter (mention : Mention sql) : Prop :=
  Nesting.after {} mention.before = {}

/-- The mention begins a line, or a kind of join that it follows does. -/
def BeginsLine (mention : Mention sql) : Prop :=
  ∃ front lead, mention.before = front ++ lead ∧ Leads lead mention.keyword ∧
    endsLine true front = true

/-- A mention that begins a line is read at the beginning of some line of the stripped text. -/
theorem exists_line (mention : Mention sql) (begins : mention.BeginsLine) :
    ∃ front text rest, Text.strip sql = front ++ text ∧ endsLine true front = true ∧
      tableName? text = some (mention.name, rest) := by
  obtain ⟨before, keyword, word, gap, name, after, whole, starts, refers⟩ := mention
  dsimp only [BeginsLine] at begins
  obtain ⟨front, lead, rfl, leads, line⟩ := begins
  have regrouped : sql = front ++ ((lead ++ (word ++ (gap ++ name))) ++ after) := by
    rw [whole]
    simp only [List.append_assoc]
  have begins := refers.begins leads
  have ends : (lead ++ (word ++ (gap ++ name))).getLast?.any Text.isBlank = false := by
    rw [← List.append_assoc, ← List.append_assoc]
    exact refers.ends_solid _
  have nonempty : lead ++ (word ++ (gap ++ name)) ≠ [] := by simp [refers.nonempty]
  obtain ⟨start, back, leading, trailing, stripped, moved, cut⟩ :=
    Text.exists_parted_strip regrouped nonempty begins ends
  refine ⟨start, lead ++ (word ++ (gap ++ (name ++ back))), back, ?_, ?_, ?_⟩
  · rw [stripped]
    simp only [List.append_assoc]
  · by_cases empty : start = []
    · rw [empty]
      rfl
    · rw [endsLine, moved, List.getLast?_append_of_ne_nil _ empty] at line
      exact line
  · have backEnds : back.head?.any isNameChar = false := by
      have outside := refers.ends
      rw [cut] at outside
      cases back with
      | nil => rfl
      | cons c back => exact outside
    exact tableName_eq_some_iff.mpr ⟨lead, keyword, word, gap, leads,
      { refers with ends := backEnds }, rfl⟩

end Mention

end Safety

open Safety (Mention InContract)

theorem Vocabulary.ascii_tables {raw : Value} {vocabulary : Vocabulary}
    (accepted : Vocabulary.read raw = .ok vocabulary) :
    ∀ table ∈ vocabulary.schema.tables, ∀ c ∈ table, c.toNat < 128 :=
  fun table listed =>
    ascii_of_isIdentifier ((wellFormed_of_read accepted).isIdentifier_of_table table listed)

/-- In a statement that passes the gate, every table that is mentioned at the beginning of a
line belongs to the contract, if no table of the contract is called like a keyword. -/
theorem inContract_of_mention {raw : Value} {vocabulary : Vocabulary}
    (accepted : Vocabulary.read raw = .ok vocabulary)
    (unreserved : ∀ table ∈ vocabulary.schema.tables, Text.lower table ∉ Safety.reservedNames)
    {style : Option ParamStyle} {sql : Text} {parameters : List Value}
    (passed : Safety.check vocabulary style sql parameters = .ok []) (mention : Mention sql)
    (begins : mention.BeginsLine) : InContract vocabulary.schema mention.name := by
  have reserved : ∀ name, Safety.spells Safety.openingKeywords name = true →
      ¬InContract vocabulary.schema name := fun name =>
    Safety.not_inContract_of_spells (Vocabulary.ascii_tables accepted) unreserved
  have known : ∀ table ∈ Safety.tables (Text.strip sql), InContract vocabulary.schema table := by
    intro table member
    have found := List.filter_eq_nil_iff.mp (Safety.passed_of_check passed).tables table member
    simpa [InContract] using found
  obtain ⟨front, text, rest, stripped, line, read⟩ := mention.exists_line begins
  rw [stripped] at known
  exact Safety.of_forall_tablesFrom reserved read line (Nat.zero_le _) known

namespace Safety

/-- The dimension table of the small vocabulary, mentioned at the beginning of a line. -/
def sampleMention : Mention "SELECT s.title\nFROM sites AS s" where
  before := "SELECT s.title\n"
  keyword := "FROM"
  word := "FROM"
  gap := " "
  name := "sites"
  after := " AS s"
  whole := by decide
  starts := by decide
  refers :=
    { listed := by decide
      spelling := by decide
      parted := by decide
      blank := List.all_eq_true.mp (by decide)
      nonempty := by decide
      named := List.all_eq_true.mp (by decide)
      ends := by decide }

theorem inContract_sampleMention :
    check Vocabulary.sampleVocabulary (some .dollar) "SELECT s.title\nFROM sites AS s" [] = .ok [] ∧
      sampleMention.BeginsLine ∧
      InContract Vocabulary.sampleVocabulary.schema sampleMention.name := by
  have passed : check Vocabulary.sampleVocabulary (some .dollar)
      "SELECT s.title\nFROM sites AS s" [] = .ok [] := by
    with_unfolding_all rfl
  have begins : sampleMention.BeginsLine :=
    ⟨"SELECT s.title\n", [], by decide, .nothing, by decide⟩
  exact ⟨passed, begins, inContract_of_mention Vocabulary.read_sampleSource (by decide) passed
    sampleMention begins⟩

/-- A table that no contract knows, mentioned further on in a line. -/
def foreignMention : Mention "SELECT name FROM users" where
  before := "SELECT name "
  keyword := "FROM"
  word := "FROM"
  gap := " "
  name := "users"
  after := []
  whole := by decide
  starts := by decide
  refers :=
    { listed := by decide
      spelling := by decide
      parted := by decide
      blank := List.all_eq_true.mp (by decide)
      nonempty := by decide
      named := List.all_eq_true.mp (by decide)
      ends := by decide }

/-- A statement passes although it mentions a foreign table. -/
theorem foreignMention_passes :
    Vocabulary.read Vocabulary.sampleSource = .ok Vocabulary.sampleVocabulary ∧
      check Vocabulary.sampleVocabulary (some .dollar) "SELECT name FROM users" [] = .ok [] ∧
      foreignMention.IsOuter ∧
      ¬InContract Vocabulary.sampleVocabulary.schema foreignMention.name := by
  refine ⟨Vocabulary.read_sampleSource, ?_, ?_, ?_⟩
  · with_unfolding_all rfl
  · rw [Mention.IsOuter]
    decide
  · rw [InContract]
    decide

end Safety

end Inquiry
