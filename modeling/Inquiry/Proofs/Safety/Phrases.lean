import Inquiry.Proofs.Safety.Findings

/-!
# Phrases before tables

At the beginning of a line the gate reads a table where `FROM` or `JOIN` has blanks and a name
behind it.  A kind of join may stand in front of `JOIN`.

No two of these phrases begin alike, so what is read does not depend on the order in which they
are tried.
-/

namespace Inquiry.Safety

/-- The keywords that a table is named behind. -/
def tableKeywords : List Text :=
  ["FROM", "JOIN"]

/-- The words that a mention at the beginning of a line begins with. -/
def openingKeywords : List Text :=
  tableKeywords ++ joinKinds

/-! ## Words that spell keywords -/

/-- The letter whose case a character is. -/
def capitalOf (c : Char) : Char :=
  if c = '\u0130' ∨ c = '\u0131' then 'I'
  else if c = '\u212a' then 'K'
  else if c = '\u017f' then 'S'
  else c.toUpper

theorem eq_capitalOf {letter c : Char} (capital : letter.isUpper = true)
    (same : isCaseOf letter c = true) : letter = capitalOf c := by
  simp only [isCaseOf, Bool.or_eq_true, Bool.and_eq_true, beq_iff_eq] at same
  rcases same with ((upper | ⟨rfl, rfl | rfl⟩) | ⟨rfl, rfl⟩) | ⟨rfl, rfl⟩
  · have plain : c ≠ '\u0130' ∧ c ≠ '\u0131' ∧ c ≠ '\u212a' ∧ c ≠ '\u017f' := by
      refine ⟨?_, ?_, ?_, ?_⟩
      all_goals
        rintro rfl
        rw [← upper] at capital
        exact absurd capital (by decide)
    simp [capitalOf, plain, upper]
  all_goals decide

/-- A keyword can be told from what spells it. -/
theorem Spelling.keyword_eq {keyword word : Text} (spelling : Spelling keyword word)
    (capitals : ∀ letter ∈ keyword, letter.isUpper = true) : keyword = word.map capitalOf := by
  induction spelling with
  | nil => rfl
  | cons same spelling ih =>
      rw [List.forall_mem_cons] at capitals
      rw [List.map_cons, ← eq_capitalOf capitals.1 same, ← ih capitals.2]

/-- Of two keywords that a text begins with one begins with the other. -/
theorem prefix_of_spelled {first second text found rest other behind : Text}
    (capitals : ∀ letter ∈ first, letter.isUpper = true)
    (others : ∀ letter ∈ second, letter.isUpper = true)
    (spelled : spelled? first text = some (found, rest))
    (again : spelled? second text = some (other, behind)) :
    first <+: second ∨ second <+: first := by
  obtain ⟨whole, spelling⟩ := spelled_eq_some_iff.mp spelled
  obtain ⟨wholeAgain, otherSpelling⟩ := spelled_eq_some_iff.mp again
  rw [spelling.keyword_eq capitals, otherSpelling.keyword_eq others]
  rcases List.prefix_or_prefix_of_prefix ⟨rest, whole.symm⟩ ⟨behind, wholeAgain.symm⟩ with
    begins | begins
  · exact .inl (begins.map capitalOf)
  · exact .inr (begins.map capitalOf)

theorem blanks_append {gap rest : Text} (parted : gap ≠ [])
    (blank : ∀ c ∈ gap, Text.isBlank c = true) (solid : rest.head?.any Text.isBlank = false) :
    blanks? (gap ++ rest) = some (gap, rest) := by
  obtain ⟨front, behind⟩ := Text.span_append blank solid
  simp [blanks?, front, behind, parted]

theorem phrase_pair {first second text word between gap others other rest : Text}
    (spelled : spelled? first text = some (word, between))
    (blank : blanks? between = some (gap, others))
    (continued : spelled? second others = some (other, rest)) :
    phrase? [first, second] text = some (word ++ gap ++ other, rest) := by
  simp [phrase?, spelled, blank, continued]

/-! ## Mentions -/

/-- A word that spells a keyword, blanks behind it, and a name up to its end. -/
structure Refers (keyword word gap name rest : Text) : Prop where
  listed : keyword ∈ tableKeywords
  spelling : Spelling keyword word
  parted : gap ≠ []
  blank : ∀ c ∈ gap, Text.isBlank c = true
  nonempty : name ≠ []
  named : ∀ c ∈ name, isNameChar c = true
  ends : rest.head?.any isNameChar = false

/-- What may stand between the beginning of a line and a keyword: nothing, or in front of the
keyword of joins a kind of join. -/
inductive Leads : (lead keyword : Text) → Prop where
  | nothing {keyword : Text} : Leads [] keyword
  | kind {kind word gap : Text} (listed : kind ∈ joinKinds)
      (spelling : Spelling kind word) (parted : gap ≠ [])
      (blank : ∀ c ∈ gap, Text.isBlank c = true) : Leads (word ++ gap) "JOIN"

theorem mem_tablePhrases {phrase : List Text} : phrase ∈ tablePhrases ↔
    (∃ keyword ∈ tableKeywords, phrase = [keyword]) ∨
      ∃ kind ∈ joinKinds, phrase = [kind, "JOIN"] := by
  simp only [tablePhrases, tableKeywords, List.mem_cons, List.mem_map, List.not_mem_nil,
    or_false, exists_eq_or_imp, exists_eq_left, or_assoc, eq_comm]

theorem isUpper_openingKeywords :
    ∀ keyword ∈ openingKeywords, ∀ letter ∈ keyword, letter.isUpper = true := by
  simp only [← List.all_eq_true]
  decide

/-- No opening keyword begins with another one. -/
theorem openingKeywords_apart : ∀ first ∈ openingKeywords, ∀ second ∈ openingKeywords,
    first <+: second → first = second := by
  decide

theorem isNameChar_of_isBlank {c : Char} (blank : Text.isBlank c = true) :
    isNameChar c = false := by
  have point : c ≠ '.' := by
    rintro rfl
    exact absurd blank (by decide)
  rw [isNameChar, isWord_of_isBlank blank, Bool.false_or, beq_eq_false_iff_ne]
  exact point

theorem isBlank_of_isNameChar {c : Char} (named : isNameChar c = true) :
    Text.isBlank c = false := by
  by_contra blank
  rw [isNameChar_of_isBlank (Bool.not_eq_false _ ▸ blank)] at named
  cases named

theorem Spelling.named {keyword word : Text} (spelling : Spelling keyword word)
    (listed : keyword ∈ openingKeywords) : word ≠ [] ∧ ∀ c ∈ word, isNameChar c = true := by
  have worded : ∀ keyword ∈ openingKeywords, keyword ≠ [] := by decide
  constructor
  · rintro rfl
    exact worded keyword listed (List.forall₂_nil_right_iff.mp spelling)
  · intro c member
    obtain ⟨letter, letterListed, same⟩ := spelling.exists_letter member
    have word := isWord_of_isCaseOf (isUpper_openingKeywords keyword listed letter letterListed) same
    rw [isNameChar, word, Bool.true_or]

theorem solid_append {name : Text} (nonempty : name ≠ []) (named : ∀ c ∈ name, isNameChar c = true)
    (rest : Text) : (name ++ rest).head?.any Text.isBlank = false := by
  obtain ⟨c, others, rfl⟩ := List.exists_cons_of_ne_nil nonempty
  simpa using isBlank_of_isNameChar (named c List.mem_cons_self)

theorem mem_openingKeywords {keyword : Text} (listed : keyword ∈ tableKeywords) :
    keyword ∈ openingKeywords :=
  List.mem_append_left _ listed

namespace Refers

variable {lead keyword word gap name rest : Text}

theorem blanks_gap (refers : Refers keyword word gap name rest) :
    blanks? (gap ++ (name ++ rest)) = some (gap, name ++ rest) :=
  blanks_append refers.parted refers.blank (solid_append refers.nonempty refers.named rest)

/-- A phrase of the gate begins where the lead does. -/
theorem exists_phrase (refers : Refers keyword word gap name rest) (leads : Leads lead keyword) :
    ∃ phrase ∈ tablePhrases,
      phrase? phrase (lead ++ (word ++ (gap ++ (name ++ rest)))) =
        some (lead ++ word, gap ++ (name ++ rest)) := by
  have spelled : spelled? keyword (word ++ (gap ++ (name ++ rest))) =
      some (word, gap ++ (name ++ rest)) :=
    spelled_eq_some_iff.mpr ⟨rfl, refers.spelling⟩
  cases leads with
  | nothing =>
      exact ⟨[keyword], mem_tablePhrases.mpr (.inl ⟨keyword, refers.listed, rfl⟩), spelled⟩
  | @kind kind kindWord kindGap listed kindSpelling parted blank =>
      obtain ⟨nonempty, named⟩ := refers.spelling.named (mem_openingKeywords refers.listed)
      have between := blanks_append parted blank
        (solid_append nonempty named (gap ++ (name ++ rest)))
      refine ⟨[kind, "JOIN"], mem_tablePhrases.mpr (.inr ⟨kind, listed, rfl⟩), ?_⟩
      rw [List.append_assoc]
      exact phrase_pair (spelled_eq_some_iff.mpr ⟨rfl, kindSpelling⟩) between spelled

end Refers

theorem head_mem_openingKeywords {first : Text} {more : List Text}
    (listed : first :: more ∈ tablePhrases) : first ∈ openingKeywords := by
  rcases mem_tablePhrases.mp listed with ⟨keyword, known, same⟩ | ⟨kind, known, same⟩
  · obtain ⟨rfl, -⟩ := List.cons.inj same
    exact mem_openingKeywords known
  · obtain ⟨rfl, -⟩ := List.cons.inj same
    exact List.mem_append_right _ known

/-- A text begins with one phrase at most. -/
theorem phrase_unique {first second : List Text} (listed : first ∈ tablePhrases)
    (otherListed : second ∈ tablePhrases) {text : Text} {found other : Text × Text}
    (success : phrase? first text = some found) (again : phrase? second text = some other) :
    first = second := by
  have heads : ∀ first ∈ tablePhrases, ∀ second ∈ tablePhrases,
      first.head? = second.head? → first = second := by
    decide
  cases first with
  | nil => exact absurd listed (by decide)
  | cons keyword more =>
      cases second with
      | nil => exact absurd otherListed (by decide)
      | cons otherKeyword others =>
          obtain ⟨word, rest, spelled, -⟩ := phrase_eq_some success
          obtain ⟨otherWord, otherRest, spelledAgain, -⟩ := phrase_eq_some again
          have opening := head_mem_openingKeywords listed
          have otherOpening := head_mem_openingKeywords otherListed
          apply heads _ listed _ otherListed
          rcases prefix_of_spelled (isUpper_openingKeywords keyword opening)
            (isUpper_openingKeywords otherKeyword otherOpening) spelled spelledAgain with
            begins | begins
          · exact congrArg some (openingKeywords_apart _ opening _ otherOpening begins)
          · exact congrArg some (openingKeywords_apart _ otherOpening _ opening begins).symm

/-- A keyword, blanks and the name characters behind them are a reference where there are any. -/
theorem refers_of_split {keyword word gap others : Text} (listed : keyword ∈ tableKeywords)
    (spelling : Spelling keyword word) (parted : gap ≠ [])
    (blank : ∀ c ∈ gap, Text.isBlank c = true) (nonempty : others.takeWhile isNameChar ≠ []) :
    Refers keyword word gap (others.takeWhile isNameChar) (others.dropWhile isNameChar) := by
  exact ⟨listed, spelling, parted, blank, nonempty, fun c member => List.mem_takeWhile_imp member,
    Text.head?_dropWhile others⟩

/-- A phrase of the gate is a keyword with what may stand before it. -/
theorem exists_leads_of_phrase {phrase : List Text} {text head rest : Text}
    (listed : phrase ∈ tablePhrases) (success : phrase? phrase text = some (head, rest)) :
    ∃ lead keyword word, Leads lead keyword ∧ keyword ∈ tableKeywords ∧ Spelling keyword word ∧
      text = lead ++ (word ++ rest) := by
  rcases mem_tablePhrases.mp listed with ⟨keyword, known, rfl⟩ | ⟨kind, known, rfl⟩
  · obtain ⟨rfl, spelling⟩ := spelled_eq_some_iff.mp success
    exact ⟨[], keyword, head, .nothing, known, spelling, rfl⟩
  · obtain ⟨⟨kindWord, after⟩, kindSpelled, success⟩ := Option.bind_eq_some_iff.mp success
    obtain ⟨⟨kindGap, middle⟩, kindBlank, success⟩ := Option.bind_eq_some_iff.mp success
    obtain ⟨⟨word, tail⟩, spelled, whole⟩ := Option.bind_eq_some_iff.mp success
    cases whole
    obtain ⟨rfl, kindSpelling⟩ := spelled_eq_some_iff.mp kindSpelled
    obtain ⟨rfl, parted, blanks⟩ := blanks_parted kindBlank
    obtain ⟨rfl, spelling⟩ := spelled_eq_some_iff.mp spelled
    exact ⟨kindWord ++ kindGap, "JOIN", word, .kind known kindSpelling parted blanks, by decide,
      spelling, by simp⟩

theorem exists_refers_of_tableName {text name rest : Text}
    (found : tableName? text = some (name, rest)) :
    ∃ lead keyword word gap, Leads lead keyword ∧ Refers keyword word gap name rest ∧
      text = lead ++ (word ++ (gap ++ (name ++ rest))) := by
  obtain ⟨phrase, listed, probed⟩ := List.exists_of_findSome?_eq_some found
  obtain ⟨⟨head, between⟩, phrased, probed⟩ := Option.bind_eq_some_iff.mp probed
  obtain ⟨⟨gap, others⟩, blank, probed⟩ := Option.bind_eq_some_iff.mp probed
  dsimp only at blank probed
  split at probed
  · cases probed
  next nonempty =>
    cases probed
    obtain ⟨lead, keyword, word, leads, known, spelling, rfl⟩ := exists_leads_of_phrase listed phrased
    obtain ⟨rfl, parted, blanks⟩ := blanks_parted blank
    rw [List.isEmpty_iff] at nonempty
    exact ⟨lead, keyword, word, gap, leads, refers_of_split known spelling parted blanks nonempty,
      by rw [List.takeWhile_append_dropWhile]⟩

theorem tableName_of_refers {lead keyword word gap name rest : Text}
    (leads : Leads lead keyword) (refers : Refers keyword word gap name rest) :
    tableName? (lead ++ (word ++ (gap ++ (name ++ rest)))) = some (name, rest) := by
  obtain ⟨phrase, listed, phrased⟩ := refers.exists_phrase leads
  generalize lead ++ (word ++ (gap ++ (name ++ rest))) = text at phrased ⊢
  obtain ⟨taken, dropped⟩ := Text.span_append refers.named refers.ends
  have inhabited : ¬name.isEmpty = true := by simpa using refers.nonempty
  cases found : tableName? text with
  | none =>
      have silent := List.findSome?_eq_none_iff.mp found _ listed
      simp only [phrased, refers.blanks_gap, taken, Option.bind_eq_bind, Option.bind_some] at silent
      rw [if_neg inhabited] at silent
      cases silent
  | some result =>
      -- The phrase that was found first can only be the one that begins here.
      obtain ⟨other, otherListed, probed⟩ := List.exists_of_findSome?_eq_some found
      have same : other = phrase := by
        obtain ⟨parts, otherPhrased, -⟩ := Option.bind_eq_some_iff.mp probed
        exact phrase_unique otherListed listed otherPhrased phrased
      simp only [same, phrased, refers.blanks_gap, taken, dropped, Option.bind_eq_bind,
        Option.bind_some] at probed
      rw [if_neg inhabited] at probed
      exact probed.symm

/-- At the beginning of a line the gate reads just the mentions with what may stand before
them. -/
theorem tableName_eq_some_iff {text name rest : Text} :
    tableName? text = some (name, rest) ↔ ∃ lead keyword word gap, Leads lead keyword ∧
      Refers keyword word gap name rest ∧ text = lead ++ (word ++ (gap ++ (name ++ rest))) := by
  constructor
  · exact exists_refers_of_tableName
  · rintro ⟨lead, keyword, word, gap, leads, refers, rfl⟩
    exact tableName_of_refers leads refers

/-- A mention begins with an opening keyword and blanks. -/
theorem exists_opening {text name rest : Text} (found : tableName? text = some (name, rest)) :
    ∃ keyword ∈ openingKeywords, ∃ word gap others, Spelling keyword word ∧
      gap ≠ [] ∧ (∀ c ∈ gap, Text.isBlank c = true) ∧ text = word ++ (gap ++ others) := by
  obtain ⟨lead, keyword, word, gap, leads, refers, rfl⟩ := tableName_eq_some_iff.mp found
  cases leads with
  | nothing =>
      exact ⟨keyword, mem_openingKeywords refers.listed, word, gap, _, refers.spelling,
        refers.parted, refers.blank, rfl⟩
  | @kind kind kindWord kindGap listed spelling parted blank =>
      exact ⟨kind, List.mem_append_right _ listed, kindWord, kindGap, _, spelling, parted, blank,
        List.append_assoc _ _ _⟩

end Inquiry.Safety
