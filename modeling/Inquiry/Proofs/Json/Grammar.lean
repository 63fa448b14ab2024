import Inquiry.Proofs.Decimal.Integer
import Inquiry.Proofs.Json.Scalar
import Inquiry.Proofs.Outcome

/-!
# Written values

A value may be written in many ways: with any blanks between its tokens, with its texts escaped or
not, and with members that a later one of the same key replaces.  Whatever is written by the grammar
is read as the value, unless it has an integer of too many digits; the first of these ends the
reading.

The induction is on how a value is written.  Items and members are written around values, so the
three are forms of one relation.
-/

namespace Inquiry.Json

/-- Any blanks that may stand between tokens. -/
def IsGap (text : Text) : Prop :=
  ∀ c ∈ text, isGap c = true

/-- What is written: a value, the items of a list, or the members of a mapping in the order in
which they are written. -/
inductive Form where
  | value (found : Value)
  | items (found : List Value)
  | members (found : List (Text × Value))

/-- The entries that members leave behind: of the same key, the place of the first with the value of
the last. -/
def entriesFrom (entries : List (Value × Value)) (members : List (Text × Value)) :
    List (Value × Value) :=
  members.foldl (fun entries member => Value.put (.text member.1) member.2 entries) entries

@[simp] theorem entriesFrom_nil (entries : List (Value × Value)) :
    entriesFrom entries [] = entries := rfl

@[simp] theorem entriesFrom_cons (entries : List (Value × Value)) (key : Text) (found : Value)
    (rest : List (Text × Value)) :
    entriesFrom entries ((key, found) :: rest) =
      entriesFrom (Value.put (.text key) found entries) rest := rfl

/-- The text is written for the form by the grammar.  The list holds the digits of all integers in
it, in order. -/
inductive Writes : Text → Form → List Text → Prop where
  | null : Writes "null" (.value .null) []
  | yes : Writes "true" (.value (.bool true)) []
  | no : Writes "false" (.value (.bool false)) []
  | positive {text : Text} {number : Value} {integers : List Text}
      (unsigned : Number false text number integers) : Writes text (.value number) integers
  | negative {text : Text} {number : Value} {integers : List Text}
      (unsigned : Number true text number integers) :
      Writes ('-' :: text) (.value number) integers
  | text {inner content : Text} (quotes : Quotes inner content) :
      Writes ('\x22' :: (inner ++ ['\x22'])) (.value (.text content)) []
  | emptyList {gap : Text} (blank : IsGap gap) :
      Writes ('[' :: (gap ++ [']'])) (.value (.list [])) []
  | list {inner : Text} {found : List Value} {integers : List Text}
      (within : Writes inner (.items found) integers) :
      Writes ('[' :: (inner ++ [']'])) (.value (.list found)) integers
  | emptyMapping {gap : Text} (blank : IsGap gap) :
      Writes ('\x7b' :: (gap ++ ['\x7d'])) (.value (.mapping [])) []
  | mapping {inner : Text} {found : List (Text × Value)} {integers : List Text}
      (within : Writes inner (.members found) integers) :
      Writes ('\x7b' :: (inner ++ ['\x7d'])) (.value (.mapping (entriesFrom [] found))) integers
  | lastItem {before text after : Text} {found : Value} {integers : List Text}
      (blankBefore : IsGap before) (item : Writes text (.value found) integers)
      (blankAfter : IsGap after) : Writes (before ++ (text ++ after)) (.items [found]) integers
  | item {before text after rest : Text} {found : Value} {others : List Value}
      {integers more : List Text} (blankBefore : IsGap before)
      (item : Writes text (.value found) integers) (blankAfter : IsGap after)
      (later : Writes rest (.items others) more) :
      Writes (before ++ (text ++ (after ++ ',' :: rest))) (.items (found :: others))
        (integers ++ more)
  | lastMember {before inner key between behind text after : Text} {found : Value}
      {integers : List Text} (blankBefore : IsGap before) (quotes : Quotes inner key)
      (blankBetween : IsGap between) (blankBehind : IsGap behind)
      (member : Writes text (.value found) integers) (blankAfter : IsGap after) :
      Writes (before ++ '\x22' :: (inner ++ '\x22' :: (between ++ ':' :: (behind ++
        (text ++ after))))) (.members [(key, found)]) integers
  | member {before inner key between behind text after rest : Text} {found : Value}
      {others : List (Text × Value)} {integers more : List Text} (blankBefore : IsGap before)
      (quotes : Quotes inner key) (blankBetween : IsGap between) (blankBehind : IsGap behind)
      (member : Writes text (.value found) integers) (blankAfter : IsGap after)
      (later : Writes rest (.members others) more) :
      Writes (before ++ '\x22' :: (inner ++ '\x22' :: (between ++ ':' :: (behind ++
        (text ++ (after ++ ',' :: rest)))))) (.members ((key, found) :: others))
        (integers ++ more)

/-- A text that holds exactly one value by the grammar. -/
def Encodes (text : Text) (found : Value) (integers : List Text) : Prop :=
  ∃ before inner after, text = before ++ (inner ++ after) ∧ IsGap before ∧ IsGap after ∧
    Writes inner (.value found) integers

/-! ## Reading what is written -/

theorem skipGap_append {gap : Text} (blank : IsGap gap) (rest : Text) :
    skipGap (gap ++ rest) = skipGap rest :=
  List.dropWhile_append_of_pos blank

theorem skipGap_cons {c : Char} (token : isGap c = false) (rest : Text) :
    skipGap (c :: rest) = c :: rest :=
  List.dropWhile_cons_of_neg (by simp [token])

/-- A later reading goes on where an earlier one ended. -/
theorem reading_bind {α β : Type} {integers more : List Text} {first : α} {last : β}
    {next : α → Except ReadError β} (later : next first = reading more last) :
    (reading integers first >>= next) = reading (integers ++ more) last := by
  simp only [reading, List.find?_append]
  cases integers.find? fun digits => Decimal.digitLimit < digits.length with
  | none => exact later
  | some digits => rfl

theorem reading_bind_ok {α β : Type} {integers : List Text} {first : α} {last : β}
    {next : α → Except ReadError β} (later : next first = .ok last) :
    (reading integers first >>= next) = reading integers last := by
  rw [reading_bind (later.trans (reading_nil last).symm), List.append_nil]

/-- The token behind a gap. -/
theorem skipGap_append_cons {gap : Text} (blank : IsGap gap) {c : Char} (token : isGap c = false)
    (rest : Text) : skipGap (gap ++ c :: rest) = c :: rest := by
  rw [skipGap_append blank, skipGap_cons token]

/-- The reader of a form reads the text, and what follows it is left. -/
def Reads (text : Text) (integers : List Text) : Form → Prop
  | .value found => ∀ (fuel : Nat) (rest : Text), 2 * text.length ≤ fuel →
      rest.head?.all closes = true →
      value fuel (text ++ rest) = reading integers (found, rest)
  | .items found => ∀ (fuel : Nat) (rest : Text), 2 * text.length < fuel →
      items fuel (skipGap (text ++ ']' :: rest)) = reading integers (found, rest)
  | .members found => ∀ (fuel : Nat) (entries : List (Value × Value)) (rest : Text),
      2 * text.length < fuel →
      members fuel entries (skipGap (text ++ '\x7d' :: rest)) =
        reading integers (entriesFrom entries found, rest)

theorem closes_of_isDigit {c : Char} (digit : c.isDigit = true) : closes c = false := by
  cases closing : closes c with
  | false => rfl
  | true =>
      have other := (isDigit_of_prolongs (prolongs_of_closes closing)).1
      rw [digit] at other
      cases other

theorem Number.exists_digit {negative : Bool} {text : Text} {number : Value}
    {integers : List Text} (unsigned : Number negative text number integers) :
    ∃ c tail, text = c :: tail ∧ c.isDigit = true := by
  cases unsigned with
  | integer digits | float digits =>
      obtain ⟨first, others, rfl⟩ := List.exists_cons_of_ne_nil digits.1.1
      exact ⟨first, _, rfl, digits.1.2 first List.mem_cons_self⟩

/-- A value begins neither with a blank nor with what closes another one. -/
theorem Writes.exists_token {text : Text} {found : Value} {integers : List Text}
    (writes : Writes text (.value found) integers) :
    ∃ c tail, text = c :: tail ∧ closes c = false := by
  cases writes with
  | positive unsigned =>
      obtain ⟨c, tail, rfl, digit⟩ := unsigned.exists_digit
      exact ⟨c, tail, rfl, closes_of_isDigit digit⟩
  | _ => exact ⟨_, _, rfl, rfl⟩

theorem isGap_of_closes {c : Char} (opens : closes c = false) : isGap c = false := by
  simp only [closes, Bool.or_eq_false_iff] at opens
  exact opens.1.1.1

/-- Behind blanks, everything that is written begins with a token that closes nothing. -/
theorem Writes.exists_front {text : Text} {form : Form} {integers : List Text}
    (writes : Writes text form integers) (rest : Text) :
    ∃ c tail, skipGap (text ++ rest) = c :: tail ∧ closes c = false := by
  have front : ∀ {before inner : Text} {found : Value} {digits : List Text}, IsGap before →
      Writes inner (.value found) digits → ∀ behind,
        ∃ c tail, skipGap (before ++ (inner ++ behind)) = c :: tail ∧ closes c = false := by
    intro before inner found digits blank value behind
    obtain ⟨c, tail, rfl, opens⟩ := value.exists_token
    refine ⟨c, tail ++ behind, ?_, opens⟩
    rw [skipGap_append blank, List.cons_append, skipGap_cons (isGap_of_closes opens)]
  cases form with
  | value found =>
      simpa using @front [] _ _ _ (List.forall_mem_nil _) writes rest
  | items found =>
      cases writes with
      | lastItem blankBefore item | item blankBefore item =>
          simpa only [List.append_assoc] using front blankBefore item _
  | members found =>
      cases writes with
      | lastMember blankBefore | member blankBefore =>
          rw [List.append_assoc, skipGap_append blankBefore, List.cons_append,
            skipGap_cons (by rfl)]
          exact ⟨_, _, rfl, rfl⟩

theorem closes_append {gap : Text} (blank : IsGap gap) {c : Char} (closing : closes c = true)
    (rest : Text) : (gap ++ c :: rest).head?.all closes = true := by
  cases gap with
  | nil => simpa using closing
  | cons d tail => simp [closes, blank d List.mem_cons_self]

theorem prolongs_of_follows {rest : Text} (follows : rest.head?.all closes = true) :
    rest.head?.any prolongs = false := by
  cases rest with
  | nil => rfl
  | cons c tail => simpa using prolongs_of_closes (by simpa using follows)

theorem value_eq_scalar {c : Char} (noQuote : c ≠ '\x22') (noBracket : c ≠ '[')
    (noBrace : c ≠ '\x7b') (fuel : Nat) (tail : Text) :
    value (fuel + 1) (c :: tail) = scalar (c :: tail) := by
  simp [value, noQuote, noBracket, noBrace]

theorem scalar_eq_unsigned {c : Char} (digit : c.isDigit = true) (tail : Text) :
    scalar (c :: tail) = unsigned false (c :: tail) ∧
      scalar ('-' :: c :: tail) = unsigned true (c :: tail) := by
  have other : ∀ d : Char, d.isDigit = false → d ≠ c := by
    rintro d plain rfl
    rw [digit] at plain
    cases plain
  have minus : c ≠ '-' := (other '-' rfl).symm
  have words : words.find? (fun word => word.1.isPrefixOf (c :: tail)) = none := by
    simp [words, other 'n' rfl, other 't' rfl, other 'f' rfl, other 'N' rfl, other 'I' rfl,
      other '-' rfl]
  have signedWords :
      Json.words.find? (fun word => word.1.isPrefixOf ('-' :: c :: tail)) = none := by
    simp [Json.words, other 'I' rfl]
  constructor
  · simp [scalar, words, minus]
  · simp [scalar, signedWords]

/-! ### One step of each reader -/

section Steps

variable {fuel : Nat} {text rest : Text} {integers : List Text}

theorem value_number {negative : Bool} {number : Value}
    (unsigned : Number negative text number integers) (follows : rest.head?.all closes = true) :
    value (fuel + 1) ((if negative then ['-'] else []) ++ (text ++ rest)) =
      reading integers (number, rest) := by
  have read := unsigned_append unsigned (prolongs_of_follows follows)
  obtain ⟨c, tail, rfl, digit⟩ := unsigned.exists_digit
  obtain ⟨plain, signed⟩ := scalar_eq_unsigned digit (tail ++ rest)
  have other : ∀ d : Char, d.isDigit = false → c ≠ d := by
    rintro d none rfl
    rw [digit] at none
    cases none
  rw [← read]
  cases negative with
  | false =>
      exact (value_eq_scalar (other _ rfl) (other _ rfl) (other _ rfl) fuel _).trans plain
  | true => exact (value_eq_scalar (by decide) (by decide) (by decide) fuel _).trans signed

theorem value_text {inner content : Text} (quotes : Quotes inner content) :
    value (fuel + 1) ('\x22' :: (inner ++ '\x22' :: rest)) =
      reading [] (.text content, rest) := by
  rw [value, content_append quotes (by simp)]
  rfl

theorem value_empty {gap : Text} (blank : IsGap gap) :
    value (fuel + 1) ('[' :: (gap ++ ']' :: rest)) = reading [] (.list [], rest) ∧
      value (fuel + 1) ('\x7b' :: (gap ++ '\x7d' :: rest)) =
        reading [] (.mapping [], rest) := by
  rw [value, value, skipGap_append blank, skipGap_append blank]
  exact ⟨rfl, rfl⟩

theorem value_list {found : List Value}
    (opens : ∃ c tail, skipGap text = c :: tail ∧ closes c = false)
    (within : items fuel (skipGap text) = reading integers (found, rest)) :
    value (fuel + 1) ('[' :: text) = reading integers (.list found, rest) := by
  obtain ⟨c, tail, front, other⟩ := opens
  rw [front] at within
  rw [value, front]
  split
  next closed =>
    obtain ⟨rfl, -⟩ := List.cons.inj closed
    cases other
  next =>
    rw [within]
    exact reading_bind_ok rfl

theorem value_mapping {found : List (Value × Value)}
    (opens : ∃ c tail, skipGap text = c :: tail ∧ closes c = false)
    (within : members fuel [] (skipGap text) = reading integers (found, rest)) :
    value (fuel + 1) ('\x7b' :: text) = reading integers (.mapping found, rest) := by
  obtain ⟨c, tail, front, other⟩ := opens
  rw [front] at within
  rw [value, front]
  split
  next closed =>
    obtain ⟨rfl, -⟩ := List.cons.inj closed
    cases other
  next =>
    rw [within]
    exact reading_bind_ok rfl

theorem items_last {after : Text} {found : Value} (blank : IsGap after)
    (item : value fuel text = reading integers (found, after ++ ']' :: rest)) :
    items (fuel + 1) text = reading integers ([found], rest) := by
  rw [items, item]
  apply reading_bind_ok
  simp only [skipGap_append_cons blank (show isGap ']' = false from rfl)]

theorem items_more {after behind : Text} {found : Value} {others : List Value}
    {more : List Text} (blank : IsGap after)
    (item : value fuel text = reading integers (found, after ++ ',' :: behind))
    (later : items fuel (skipGap behind) = reading more (others, rest)) :
    items (fuel + 1) text = reading (integers ++ more) (found :: others, rest) := by
  rw [items, item]
  apply reading_bind
  simp only [skipGap_append_cons blank (show isGap ',' = false from rfl), later]
  exact reading_bind_ok rfl

section Members

variable {inner key between gap tail after : Text} {found : Value}
  {entries : List (Value × Value)}

/-- A member is read up to its value, and what comes behind is read with the new entries. -/
theorem members_step {others : List (Value × Value)} {more : List Text}
    (quotes : Quotes inner key) (blankBetween : IsGap between) (blankBehind : IsGap gap)
    (opens : ∃ c front, text = c :: front ∧ closes c = false)
    (member : value fuel text = reading integers (found, tail))
    (later : (match skipGap tail with
      | '\x7d' :: rest => Except.ok (Value.put (.text key) found entries, rest)
      | ',' :: rest => members fuel (Value.put (.text key) found entries) (skipGap rest)
      | _ => .error .malformed) = reading more (others, rest)) :
    members (fuel + 1) entries ('\x22' :: (inner ++ '\x22' :: (between ++ ':' :: (gap ++
      text)))) = reading (integers ++ more) (others, rest) := by
  obtain ⟨c, front, rfl, other⟩ := opens
  rw [members, content_append quotes (by simp), Outcome.ok_bind]
  simp only [skipGap_append_cons blankBetween (show isGap ':' = false from rfl),
    skipGap_append_cons blankBehind (isGap_of_closes other), member]
  exact reading_bind later

theorem members_last (quotes : Quotes inner key) (blankBetween : IsGap between)
    (blankBehind : IsGap gap) (opens : ∃ c front, text = c :: front ∧ closes c = false)
    (blankAfter : IsGap after)
    (member : value fuel text = reading integers (found, after ++ '\x7d' :: rest)) :
    members (fuel + 1) entries ('\x22' :: (inner ++ '\x22' :: (between ++ ':' :: (gap ++
      text)))) = reading integers (Value.put (.text key) found entries, rest) := by
  have step := @members_step fuel text rest integers inner key between gap _ found entries _ []
    quotes blankBetween blankBehind opens member
    (by rw [skipGap_append_cons blankAfter rfl]; exact (reading_nil _).symm)
  rwa [List.append_nil] at step

theorem members_more {behind : Text} {others : List (Value × Value)} {more : List Text}
    (quotes : Quotes inner key) (blankBetween : IsGap between) (blankBehind : IsGap gap)
    (opens : ∃ c front, text = c :: front ∧ closes c = false) (blankAfter : IsGap after)
    (member : value fuel text = reading integers (found, after ++ ',' :: behind))
    (later : members fuel (Value.put (.text key) found entries) (skipGap behind) =
      reading more (others, rest)) :
    members (fuel + 1) entries ('\x22' :: (inner ++ '\x22' :: (between ++ ':' :: (gap ++
      text)))) = reading (integers ++ more) (others, rest) :=
  members_step quotes blankBetween blankBehind opens member
    (by rw [skipGap_append_cons blankAfter rfl]; exact later)

end Members

end Steps

/-- Whatever is written is read, unless an integer in it is too long. -/
theorem reads_of_writes {text : Text} {form : Form} {integers : List Text}
    (writes : Writes text form integers) : Reads text integers form := by
  -- Two rounds are granted for a character: a bracket takes one, and so does the first item.
  have granted : ∀ {size fuel : Nat}, 2 * (size + 1) ≤ fuel → ∃ rounds, fuel = rounds + 1 :=
    fun enough => Nat.exists_eq_succ_of_ne_zero (by omega)
  induction writes with
  | null | yes | no =>
      intro fuel rest enough follows
      obtain ⟨fuel, rfl⟩ := granted enough
      rfl
  | positive unsigned =>
      intro fuel rest enough follows
      obtain ⟨c, tail, rfl, -⟩ := unsigned.exists_digit
      obtain ⟨fuel, rfl⟩ := granted enough
      exact value_number unsigned follows
  | negative unsigned =>
      intro fuel rest enough follows
      obtain ⟨fuel, rfl⟩ := granted enough
      exact value_number unsigned follows
  | text quotes =>
      intro fuel rest enough follows
      obtain ⟨fuel, rfl⟩ := granted enough
      simpa using value_text quotes
  | emptyList blank =>
      intro fuel rest enough follows
      obtain ⟨fuel, rfl⟩ := granted enough
      simpa using (value_empty blank).1
  | emptyMapping blank =>
      intro fuel rest enough follows
      obtain ⟨fuel, rfl⟩ := granted enough
      simpa using (value_empty blank).2
  | list within ih =>
      intro fuel rest enough follows
      obtain ⟨fuel, rfl⟩ := granted enough
      simp only [List.length_cons, List.length_append] at enough
      simpa using value_list (within.exists_front _) (ih fuel rest (by omega))
  | mapping within ih =>
      intro fuel rest enough follows
      obtain ⟨fuel, rfl⟩ := granted enough
      simp only [List.length_cons, List.length_append] at enough
      simpa using value_mapping (within.exists_front _) (ih fuel [] rest (by omega))
  | @lastItem before text after found integers blankBefore item blankAfter ih =>
      intro fuel rest enough
      obtain ⟨c, tail, rfl, opens⟩ := item.exists_token
      obtain ⟨fuel, rfl⟩ := Nat.exists_eq_succ_of_ne_zero (Nat.ne_of_gt (Nat.zero_lt_of_lt enough))
      simp only [List.length_append] at enough
      have read := ih fuel (after ++ ']' :: rest) (by omega) (closes_append blankAfter rfl rest)
      simpa [skipGap_append_cons blankBefore (isGap_of_closes opens)] using
        items_last blankAfter read
  | @item before text after behind found others integers more blankBefore item blankAfter later ih
      ihLater =>
      intro fuel rest enough
      obtain ⟨c, tail, rfl, opens⟩ := item.exists_token
      obtain ⟨fuel, rfl⟩ := Nat.exists_eq_succ_of_ne_zero (Nat.ne_of_gt (Nat.zero_lt_of_lt enough))
      simp only [List.length_append, List.length_cons] at enough
      have read := ih fuel (after ++ ',' :: (behind ++ ']' :: rest)) (by simp; omega)
        (closes_append blankAfter rfl _)
      simpa [skipGap_append_cons blankBefore (isGap_of_closes opens)] using
        items_more blankAfter read (ihLater fuel rest (by omega))
  | @lastMember before inner key between gap text after found integers blankBefore quotes
      blankBetween blankBehind member blankAfter ih =>
      intro fuel entries rest enough
      obtain ⟨fuel, rfl⟩ := Nat.exists_eq_succ_of_ne_zero (Nat.ne_of_gt (Nat.zero_lt_of_lt enough))
      simp only [List.length_append, List.length_cons] at enough
      obtain ⟨c, tail, rfl, opens⟩ := member.exists_token
      have read := ih fuel (after ++ '\x7d' :: rest) (by omega) (closes_append blankAfter rfl rest)
      simpa [skipGap_append_cons blankBefore, isGap] using
        members_last quotes blankBetween blankBehind ⟨c, _, rfl, opens⟩ blankAfter read
  | @member before inner key between gap text after behind found others integers more blankBefore
      quotes blankBetween blankBehind member blankAfter later ih ihLater =>
      intro fuel entries rest enough
      obtain ⟨fuel, rfl⟩ := Nat.exists_eq_succ_of_ne_zero (Nat.ne_of_gt (Nat.zero_lt_of_lt enough))
      simp only [List.length_append, List.length_cons] at enough
      obtain ⟨c, tail, rfl, opens⟩ := member.exists_token
      have read := ih fuel (after ++ ',' :: (behind ++ '\x7d' :: rest)) (by omega)
        (closes_append blankAfter rfl _)
      simpa [skipGap_append_cons blankBefore, isGap] using
        members_more quotes blankBetween blankBehind ⟨c, _, rfl, opens⟩ blankAfter read
          (ihLater fuel _ rest (by omega))

/-- A text by the grammar is read as its value, unless an integer in it is too long. -/
theorem parse_of_encodes {text : Text} {found : Value} {integers : List Text}
    (encodes : Encodes text found integers) : parse text = reading integers found := by
  obtain ⟨before, inner, after, rfl, blankBefore, blankAfter, writes⟩ := encodes
  obtain ⟨c, tail, rfl, opens⟩ := writes.exists_token
  have follows : after.head?.all closes = true := by
    cases after with
    | nil => rfl
    | cons d rest => simp [closes, blankAfter d List.mem_cons_self]
  have nothing : skipGap after = [] := List.dropWhile_eq_nil_iff.mpr blankAfter
  have read := reads_of_writes writes
    (2 * (before ++ (c :: tail ++ after)).length + 2) after (by simp; omega) follows
  rw [List.cons_append] at read ⊢
  rw [parse, skipGap_append_cons blankBefore (isGap_of_closes opens), read]
  exact reading_bind_ok (by simp [nothing])

/-! ## Characters that are written -/

/-- A blank between tokens, or no control. -/
def isWritten (c : Char) : Bool :=
  isGap c || 32 ≤ c.toNat

theorem isWritten_of_le {c : Char} (noControl : 32 ≤ c.toNat) : isWritten c = true := by
  simp [isWritten, noControl]

theorem isWritten_of_gap {gap : Text} (blank : IsGap gap) : ∀ c ∈ gap, isWritten c = true :=
  fun c member => by simp [isWritten, blank c member]

theorem isWritten_of_hexUnit {digits : Text} (hex : IsHexUnit digits) :
    ∀ c ∈ digits, isWritten c = true := by
  intro c member
  apply isWritten_of_le
  by_contra control
  have low : ∀ d : Char, 32 ≤ d.toNat → ¬d ≤ c := by
    intro d high below
    have bound : d.toNat ≤ c.toNat := below
    omega
  have other : Text.hexDigit? c = none := by
    rw [Text.hexDigit?, if_neg, if_neg fun bounds => low 'a' (by decide) bounds.1,
      if_neg fun bounds => low 'A' (by decide) bounds.1]
    intro digit
    have bounds := Decimal.bounds_of_isDigit digit
    omega
  have found := hex.2 c member
  rw [other] at found
  cases found

theorem isWritten_of_digits {digits : Text} (all : ∀ c ∈ digits, c.isDigit = true) :
    ∀ c ∈ digits, isWritten c = true := by
  intro c member
  have bounds := Decimal.bounds_of_isDigit (all c member)
  exact isWritten_of_le (by omega)

theorem isWritten_of_short {mark c : Char} (known : shortEscape? mark = some c) :
    isWritten mark = true := by
  unfold shortEscape? at known
  split at known <;> first | rfl | cases known

theorem Stands.isWritten {piece : Text} {c : Char} (stands : Stands piece c) :
    ∀ d ∈ piece, isWritten d = true := by
  cases stands with
  | itself noControl => simpa using isWritten_of_le noControl
  | short known => simpa using ⟨rfl, isWritten_of_short known⟩
  | unit hex => simpa using ⟨rfl, rfl, isWritten_of_hexUnit hex⟩
  | pair hexHigh hexLow =>
      simp only [List.forall_mem_cons, List.forall_mem_append]
      exact ⟨rfl, rfl, isWritten_of_hexUnit hexHigh, rfl, rfl, isWritten_of_hexUnit hexLow⟩

theorem Quotes.isWritten {inner content : Text} (quotes : Quotes inner content) :
    ∀ c ∈ inner, isWritten c = true := by
  induction quotes with
  | empty => exact List.forall_mem_nil _
  | more first rest ih => exact List.forall_mem_append.mpr ⟨first.isWritten, ih⟩

theorem Fraction.isWritten {fraction places : Text} (behind : Fraction fraction places) :
    ∀ c ∈ fraction, isWritten c = true := by
  cases behind with
  | absent => exact List.forall_mem_nil _
  | point digits => exact List.forall_mem_cons.mpr ⟨rfl, isWritten_of_digits digits.2⟩

theorem Exponent.isWritten {exponent : Text} {power : Int} (scaled : Exponent exponent power) :
    ∀ c ∈ exponent, isWritten c = true := by
  have marked : ∀ mark : Char, mark = 'e' ∨ mark = 'E' → Json.isWritten mark = true := by
    rintro mark (rfl | rfl) <;> rfl
  cases scaled with
  | absent => exact List.forall_mem_nil _
  | plain known digits =>
      exact List.forall_mem_cons.mpr ⟨marked _ known, isWritten_of_digits digits.2⟩
  | positive known digits | negative known digits =>
      simp only [List.forall_mem_cons]
      exact ⟨marked _ known, rfl, isWritten_of_digits digits.2⟩

theorem Number.isWritten {negative : Bool} {text : Text} {number : Value} {integers : List Text}
    (unsigned : Number negative text number integers) : ∀ c ∈ text, isWritten c = true := by
  cases unsigned with
  | integer digits => exact isWritten_of_digits digits.1.2
  | float digits behind scaled given =>
      simp only [List.forall_mem_append]
      exact ⟨isWritten_of_digits digits.1.2, behind.isWritten, scaled.isWritten⟩

theorem Writes.isWritten {text : Text} {form : Form} {integers : List Text}
    (writes : Writes text form integers) : ∀ c ∈ text, isWritten c = true := by
  have word : ∀ text : Text, text.all Json.isWritten = true → ∀ c ∈ text, Json.isWritten c = true :=
    fun text => List.all_eq_true.mp
  induction writes with
  | null | yes | no => exact word _ rfl
  | positive unsigned => exact unsigned.isWritten
  | negative unsigned => exact List.forall_mem_cons.mpr ⟨rfl, unsigned.isWritten⟩
  | text quotes =>
      simp only [List.forall_mem_cons, List.forall_mem_append]
      exact ⟨rfl, quotes.isWritten, rfl, List.forall_mem_nil _⟩
  | emptyList blank | emptyMapping blank =>
      simp only [List.forall_mem_cons, List.forall_mem_append]
      exact ⟨rfl, isWritten_of_gap blank, rfl, List.forall_mem_nil _⟩
  | list within ih | mapping within ih =>
      simp only [List.forall_mem_cons, List.forall_mem_append]
      exact ⟨rfl, ih, rfl, List.forall_mem_nil _⟩
  | lastItem blankBefore item blankAfter ih =>
      simp only [List.forall_mem_append]
      exact ⟨isWritten_of_gap blankBefore, ih, isWritten_of_gap blankAfter⟩
  | item blankBefore item blankAfter later ih ihLater =>
      simp only [List.forall_mem_cons, List.forall_mem_append]
      exact ⟨isWritten_of_gap blankBefore, ih, isWritten_of_gap blankAfter, rfl, ihLater⟩
  | lastMember blankBefore quotes blankBetween blankBehind member blankAfter ih =>
      simp only [List.forall_mem_cons, List.forall_mem_append]
      exact ⟨isWritten_of_gap blankBefore, rfl, quotes.isWritten, rfl,
        isWritten_of_gap blankBetween, rfl, isWritten_of_gap blankBehind, ih,
        isWritten_of_gap blankAfter⟩
  | member blankBefore quotes blankBetween blankBehind member blankAfter later ih ihLater =>
      simp only [List.forall_mem_cons, List.forall_mem_append]
      exact ⟨isWritten_of_gap blankBefore, rfl, quotes.isWritten, rfl,
        isWritten_of_gap blankBetween, rfl, isWritten_of_gap blankBehind, ih,
        isWritten_of_gap blankAfter, rfl, ihLater⟩

theorem Encodes.isWritten {text : Text} {found : Value} {integers : List Text}
    (encodes : Encodes text found integers) : ∀ c ∈ text, isWritten c = true := by
  obtain ⟨before, inner, after, rfl, blankBefore, blankAfter, writes⟩ := encodes
  simp only [List.forall_mem_append]
  exact ⟨isWritten_of_gap blankBefore, writes.isWritten, isWritten_of_gap blankAfter⟩

/-- A mapping begins with its brace. -/
theorem Encodes.exists_brace {text : Text} {entries : List (Value × Value)}
    {integers : List Text} (encodes : Encodes text (.mapping entries) integers) :
    ∃ before rest, text = before ++ '\x7b' :: rest ∧ IsGap before := by
  obtain ⟨before, inner, after, rfl, blankBefore, -, writes⟩ := encodes
  cases writes with
  | positive unsigned | negative unsigned => cases unsigned
  | emptyMapping | mapping => exact ⟨before, _, rfl, blankBefore⟩

end Inquiry.Json
