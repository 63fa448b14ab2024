import Inquiry.Proofs.Decimal.Integer
import Inquiry.Proofs.Json.Grammar

/-!
# Beginnings of texts

All tokens but quoted texts are written in ASCII.  A text that is broken off before any other
character is therefore read in one of three ways: it lacks something, it fails as the whole text
does, or it is read to where the reading of the whole text ends, and the rest of the text is left.

Each reader looks at no more than the characters up to where it stops, so the relation is kept from
the readers of characters up to the readers of values.
-/

namespace Inquiry.Json

/-- What is read of a beginning, against what is read of the text with the tail. -/
inductive Precedes {α : Type} (tail : Text) :
    Except ReadError (α × Text) → Except ReadError (α × Text) → Prop where
  | lacking (whole : Except ReadError (α × Text)) : Precedes tail (.error .malformed) whole
  | failed (fault : ReadError) : Precedes tail (.error fault) (.error fault)
  | read (found : α) (rest : Text) : Precedes tail (.ok (found, rest)) (.ok (found, rest ++ tail))

theorem Precedes.bind {α β : Type} {tail : Text} {short whole : Except ReadError (α × Text)}
    {next onward : α × Text → Except ReadError (β × Text)} (precedes : Precedes tail short whole)
    (later : ∀ found rest, Precedes tail (next (found, rest)) (onward (found, rest ++ tail))) :
    Precedes tail (short >>= next) (whole >>= onward) := by
  cases precedes with
  | lacking => exact .lacking _
  | failed fault => exact .failed fault
  | read found rest => exact later found rest

theorem Precedes.ite {α : Type} {tail : Text} (holds : Prop) [Decidable holds]
    {short whole other otherWhole : Except ReadError (α × Text)}
    (first : Precedes tail short whole) (second : Precedes tail other otherWhole) :
    Precedes tail (if holds then short else other) (if holds then whole else otherWhole) := by
  split
  · exact first
  · exact second

/-! ## Characters that are not ASCII -/

theorem span_append_outside {inClass : Char → Bool} {c : Char} (outside : inClass c = false)
    (text behind : Text) :
    (text ++ c :: behind).takeWhile inClass = text.takeWhile inClass ∧
      (text ++ c :: behind).dropWhile inClass = text.dropWhile inClass ++ c :: behind := by
  induction text with
  | nil => simp [outside]
  | cons d rest ih =>
      cases inside : inClass d with
      | false => simp [inside]
      | true => simpa [inside] using ih

/-- What follows a character that was read is followed by more. -/
def followedBy {α : Type} (tail : Text) (found : α × Text) : α × Text :=
  (found.1, found.2 ++ tail)

theorem hexUnit?_eq_none {text : Text} {c : Char} (member : c ∈ text.take 4)
    (other : Text.hexDigit? c = none) : hexUnit? text = none := by
  match text with
  | a :: b :: d :: e :: rest =>
      have some : ¬([a, b, d, e].all fun c => (Text.hexDigit? c).isSome) = true := by
        intro all
        have hex := List.all_eq_true.mp all c (by simpa using member)
        rw [other] at hex
        cases hex
      rw [hexUnit?, if_neg some]
  | [] | [_] | [_, _] | [_, _, _] => rfl

theorem lowSurrogate?_eq_none {text : Text} (other : ∀ rest, text ≠ '\\' :: 'u' :: rest) :
    lowSurrogate? text = none := by
  rw [lowSurrogate?]
  exact other

theorem exponent?_unsigned {mark first : Char} (known : mark = 'e' ∨ mark = 'E')
    (minus : first ≠ '-') (plus : first ≠ '+') (others : Text) :
    exponent? (mark :: first :: others) =
      if (digits (first :: others)).1.isEmpty then none
      else some ((Text.inBase 10 (digits (first :: others)).1 : Int),
        (digits (first :: others)).2) := by
  simp [exponent?, known, minus, plus]

section Foreign

variable {c : Char} {behind : Text} (foreign : 128 ≤ c.toNat)

include foreign

theorem ne_of_foreign {d : Char} (ascii : d.toNat < 128) : c ≠ d := by
  rintro rfl
  omega

theorem isGap_of_foreign : isGap c = false := by
  simp [isGap, ne_of_foreign foreign]

theorem isDigit_of_foreign : c.isDigit = false := by
  cases digit : c.isDigit with
  | false => rfl
  | true =>
      have bounds := Decimal.bounds_of_isDigit digit
      omega

theorem hexDigit?_of_foreign : Text.hexDigit? c = none := by
  have above : ∀ {d : Char}, d.toNat < 128 → ¬c ≤ d := by
    intro d ascii below
    have bound : c.toNat ≤ d.toNat := below
    omega
  rw [Text.hexDigit?, if_neg (by simp [isDigit_of_foreign foreign]),
    if_neg fun bounds => above (by decide) bounds.2,
    if_neg fun bounds => above (by decide) bounds.2]

theorem skipGap_foreign (text : Text) :
    skipGap (text ++ c :: behind) = skipGap text ++ c :: behind :=
  (span_append_outside (isGap_of_foreign foreign) text behind).2

theorem digits_foreign (text : Text) :
    digits (text ++ c :: behind) = followedBy (c :: behind) (digits text) := by
  obtain ⟨taken, dropped⟩ := span_append_outside (isDigit_of_foreign foreign) text behind
  rw [digits, taken, dropped]
  rfl

theorem hexUnit?_foreign (text : Text) :
    hexUnit? (text ++ c :: behind) = (hexUnit? text).map (followedBy (c :: behind)) := by
  have other := hexDigit?_of_foreign foreign
  match text with
  | [] | [_] | [_, _] | [_, _, _] => exact hexUnit?_eq_none (by simp) other
  | _ :: _ :: _ :: _ :: rest =>
      simp only [List.cons_append, hexUnit?]
      split <;> rfl

theorem lowSurrogate?_foreign (text : Text) :
    lowSurrogate? (text ++ c :: behind) =
      (lowSurrogate? text).map (followedBy (c :: behind)) := by
  by_cases shape : ∃ rest, text = '\\' :: 'u' :: rest
  · obtain ⟨rest, rfl⟩ := shape
    simp only [List.cons_append, lowSurrogate?, hexUnit?_foreign foreign]
    cases hexUnit? rest with
    | none => rfl
    | some found =>
        simp only [Option.map_some, followedBy]
        split <;> rfl
  · have noEscape : c ≠ '\\' := ne_of_foreign foreign (by decide)
    have noUnit : c ≠ 'u' := ne_of_foreign foreign (by decide)
    rw [lowSurrogate?_eq_none fun rest same => shape ⟨rest, same⟩, Option.map_none]
    apply lowSurrogate?_eq_none
    intro rest same
    rcases text with _ | ⟨d, _ | ⟨e, others⟩⟩
    · exact noEscape (List.cons.inj same).1
    · exact noUnit (List.cons.inj (List.cons.inj same).2).1
    · simp only [List.cons_append, List.cons.injEq] at same
      exact shape ⟨others, by rw [same.1, same.2.1]⟩

theorem shortEscape?_foreign : shortEscape? c = none := by
  have other : ∀ {d : Char}, d.toNat < 128 → c ≠ d := ne_of_foreign foreign
  rw [shortEscape?] <;> exact fun same => other (by decide) same

theorem escape?_foreign (text : Text) :
    escape? (text ++ c :: behind) = (escape? text).map (followedBy (c :: behind)) := by
  cases text with
  | nil => simp [escape?, ne_of_foreign foreign, shortEscape?_foreign foreign]
  | cons d rest =>
      by_cases unit : d = 'u'
      · subst unit
        simp only [List.cons_append, escape?, hexUnit?_foreign foreign]
        cases hexUnit? rest with
        | none => rfl
        | some found =>
            obtain ⟨unit, left⟩ := found
            simp only [Option.map_some, Option.bind_eq_bind, Option.bind_some, followedBy,
              lowSurrogate?_foreign foreign]
            by_cases high : 0xD800 ≤ unit ∧ unit ≤ 0xDBFF
            · rw [if_pos high, if_pos high]
              cases lowSurrogate? left with
              | none => simp only [Option.map_none, Option.map_some, followedBy]
              | some low => simp only [Option.map_some, followedBy]
            · rw [if_neg high, if_neg high]
              by_cases low : 0xDC00 ≤ unit ∧ unit ≤ 0xDFFF
              · rw [if_pos low, if_pos low, Option.map_some, followedBy]
              · rw [if_neg low, if_neg low, Option.map_some, followedBy]
      · rw [List.cons_append, escape?, escape?]
        · cases shortEscape? d <;> rfl
        · exact unit
        · exact unit

/-! ## Scalars -/

theorem precedes_content {fuel more : Nat} (atLeast : fuel ≤ more) (text : Text) :
    Precedes (c :: behind) (content fuel text) (content more (text ++ c :: behind)) := by
  induction fuel generalizing more text with
  | zero => exact .lacking _
  | succ fuel ih =>
      obtain ⟨more, rfl⟩ := Nat.exists_eq_succ_of_ne_zero (Nat.ne_of_gt (Nat.zero_lt_of_lt atLeast))
      have later : ∀ (d : Char) (rest : Text),
          Precedes (c :: behind)
            (content fuel rest >>= fun found => Except.ok (d :: found.1, found.2))
            (content more (rest ++ c :: behind) >>= fun found =>
              Except.ok (d :: found.1, found.2)) :=
        fun d rest => (ih (Nat.le_of_succ_le_succ atLeast) rest).bind fun _ _ => .read _ _
      cases text with
      | nil => exact .lacking _
      | cons d rest =>
          rw [List.cons_append]
          by_cases quote : d = '\x22'
          · subst quote
            exact .read _ _
          by_cases escape : d = '\\'
          · subst escape
            rw [content, content, escape?_foreign foreign]
            cases escape? rest with
            | none => exact .lacking _
            | some found => exact later found.1 found.2
          rw [content, content]
          · by_cases control : d.toNat < 32
            · rw [if_pos control, if_pos control]
              exact .failed _
            · rw [if_neg control, if_neg control]
              exact later d rest
          all_goals assumption

theorem fraction?_foreign (text : Text) :
    fraction? (text ++ c :: behind) = (fraction? text).map (followedBy (c :: behind)) := by
  have pointless : c ≠ '.' := ne_of_foreign foreign (by decide)
  cases text with
  | nil => simp [fraction?, pointless]
  | cons d rest =>
      by_cases point : d = '.'
      · subst point
        simp only [List.cons_append, fraction?, digits_foreign foreign, followedBy]
        split <;> rfl
      · simp [fraction?, point]

theorem exponent?_foreign (text : Text) :
    exponent? (text ++ c :: behind) = (exponent? text).map (followedBy (c :: behind)) := by
  have other : ∀ {d : Char}, d.toNat < 128 → c ≠ d := ne_of_foreign foreign
  have minus : c ≠ '-' := other (by decide)
  have plus : c ≠ '+' := other (by decide)
  cases text with
  | nil => simp [exponent?, other (d := 'e') (by decide), other (d := 'E') (by decide)]
  | cons mark rest =>
      by_cases known : mark = 'e' ∨ mark = 'E'
      · cases rest with
        | nil => simp [exponent?, known, minus, plus, digits, isDigit_of_foreign foreign]
        | cons sign others =>
            by_cases negative : sign = '-'
            · subst negative
              simp only [List.cons_append, exponent?, if_pos known, digits_foreign foreign,
                followedBy]
              split <;> rfl
            by_cases positive : sign = '+'
            · subst positive
              simp only [List.cons_append, exponent?, if_pos known, digits_foreign foreign,
                followedBy]
              split <;> rfl
            have parted : digits (sign :: (others ++ c :: behind)) =
                followedBy (c :: behind) (digits (sign :: others)) :=
              digits_foreign foreign (sign :: others)
            rw [List.cons_append, List.cons_append, exponent?_unsigned known negative positive,
              exponent?_unsigned known negative positive, parted, followedBy]
            cases (digits (sign :: others)).1.isEmpty <;> rfl
      · simp [exponent?, known]

theorem precedes_unsigned (negative : Bool) (text : Text) :
    Precedes (c :: behind) (unsigned negative text) (unsigned negative (text ++ c :: behind)) := by
  cases text with
  | nil => exact .lacking _
  | cons first others =>
      by_cases digit : first.isDigit = true
      · have parted : (if first = '0' then (['0'], others ++ c :: behind)
            else digits (first :: (others ++ c :: behind))) =
            followedBy (c :: behind)
              (if first = '0' then (['0'], others) else digits (first :: others)) := by
          split
          · rfl
          · exact digits_foreign foreign (first :: others)
        have number : ¬(!first.isDigit) = true := by simp [digit]
        rw [List.cons_append, unsigned, unsigned, if_neg number, if_neg number, parted]
        obtain ⟨whole, rest⟩ := if first = '0' then (['0'], others) else digits (first :: others)
        have placed : (fraction? (rest ++ c :: behind)).getD ([], rest ++ c :: behind) =
            followedBy (c :: behind) ((fraction? rest).getD ([], rest)) := by
          rw [fraction?_foreign foreign]
          cases fraction? rest <;> rfl
        simp only [followedBy, placed]
        obtain ⟨places, rest⟩ := (fraction? rest).getD ([], rest)
        simp only [exponent?_foreign foreign]
        cases exponent? rest with
        | none => exact (Precedes.ite _ (.failed _) (.read _ _)).ite _ (.read _ _)
        | some found => exact (Precedes.ite _ (.failed _) (.read _ _)).ite _ (.read _ _)
      · have other : (!first.isDigit) = true := by simp [digit]
        rw [List.cons_append, unsigned, unsigned, if_pos other, if_pos other]
        exact .failed _

theorem isPrefixOf_foreign {word : Text} (ascii : ∀ d ∈ word, d.toNat < 128) (text : Text) :
    word.isPrefixOf (text ++ c :: behind) = word.isPrefixOf text := by
  induction word generalizing text with
  | nil => rfl
  | cons d others ih =>
      have other : (d == c) = false :=
        beq_eq_false_iff_ne.mpr (ne_of_foreign foreign (ascii d List.mem_cons_self)).symm
      cases text with
      | nil => simp [List.isPrefixOf, other]
      | cons e rest =>
          simp only [List.cons_append, List.isPrefixOf,
            ih (fun d member => ascii d (List.mem_cons_of_mem _ member))]

theorem precedes_scalar (text : Text) :
    Precedes (c :: behind) (scalar text) (scalar (text ++ c :: behind)) := by
  have ascii : ∀ word ∈ words, ∀ d ∈ word.1, d.toNat < 128 := by simp [words]
  have same : words.find? (fun word => word.1.isPrefixOf (text ++ c :: behind)) =
      words.find? fun word => word.1.isPrefixOf text :=
    List.find?_congr fun word member => isPrefixOf_foreign foreign (ascii word member) text
  unfold scalar
  rw [same]
  cases known : words.find? fun word => word.1.isPrefixOf text with
  | some word =>
      have prefixed : word.1.isPrefixOf text = true := by simpa using List.find?_some known
      obtain ⟨rest, rfl⟩ := List.isPrefixOf_iff_prefix.mp prefixed
      simp only [List.append_assoc, List.drop_left]
      exact .read _ _
  | none =>
      cases text with
      | nil => exact .lacking _
      | cons d rest =>
          by_cases minus : d = '-'
          · subst minus
            exact precedes_unsigned foreign true rest
          · simpa [minus] using precedes_unsigned foreign false (d :: rest)

/-! ## Values -/

/-- Every reader, with fuel for the beginning and with fuel for the whole text. -/
structure ReadersPrecede (tail : Text) (fuel more : Nat) : Prop where
  value : ∀ text, Precedes tail (value fuel text) (value more (text ++ tail))
  items : ∀ text, Precedes tail (items fuel text) (items more (text ++ tail))
  members : ∀ entries text,
    Precedes tail (members fuel entries text) (members more entries (text ++ tail))

section Step

variable {fuel more : Nat} (step : ReadersPrecede (c :: behind) fuel more)

include step

theorem precedes_value_succ (text : Text) :
    Precedes (c :: behind) (value (fuel + 1) text) (value (more + 1) (text ++ c :: behind)) := by
  have other : ∀ {d : Char}, d.toNat < 128 → c ≠ d := ne_of_foreign foreign
  cases text with
  | nil => exact .lacking _
  | cons d rest =>
      rw [List.cons_append]
      by_cases quote : d = '\x22'
      · subst quote
        exact (precedes_content foreign (by simp) rest).bind fun _ _ => .read _ _
      by_cases bracket : d = '['
      · subst bracket
        have inner : Precedes (c :: behind)
            (items fuel (skipGap rest) >>= fun found => .ok (Value.list found.1, found.2))
            (items more (skipGap rest ++ c :: behind) >>= fun found =>
              .ok (Value.list found.1, found.2)) :=
          (step.items _).bind fun _ _ => .read _ _
        simp only [value, skipGap_foreign foreign]
        cases front : skipGap rest with
        | nil => simpa [front, other (d := ']') (by decide)] using inner
        | cons e others =>
            by_cases closed : e = ']'
            · subst closed
              exact .read _ _
            · simpa [front, closed] using inner
      by_cases brace : d = '\x7b'
      · subst brace
        have inner : Precedes (c :: behind)
            (members fuel [] (skipGap rest) >>= fun found => .ok (Value.mapping found.1, found.2))
            (members more [] (skipGap rest ++ c :: behind) >>= fun found =>
              .ok (Value.mapping found.1, found.2)) :=
          (step.members _ _).bind fun _ _ => .read _ _
        simp only [value, skipGap_foreign foreign]
        cases front : skipGap rest with
        | nil => simpa [front, other (d := '\x7d') (by decide)] using inner
        | cons e others =>
            by_cases closed : e = '\x7d'
            · subst closed
              exact .read _ _
            · simpa [front, closed] using inner
      rw [value_eq_scalar quote bracket brace, value_eq_scalar quote bracket brace]
      exact precedes_scalar foreign (d :: rest)

theorem precedes_items_succ (text : Text) :
    Precedes (c :: behind) (items (fuel + 1) text) (items (more + 1) (text ++ c :: behind)) := by
  rw [items, items]
  refine (step.value text).bind fun item rest => ?_
  simp only [skipGap_foreign foreign]
  cases skipGap rest with
  | nil => exact .lacking _
  | cons e others =>
      by_cases closed : e = ']'
      · subst closed
        exact .read _ _
      by_cases comma : e = ','
      · subst comma
        simp only [List.cons_append, skipGap_foreign foreign]
        exact (step.items _).bind fun _ _ => .read _ _
      simpa [closed, comma] using .failed _

theorem precedes_members_succ (entries : List (Value × Value)) (text : Text) :
    Precedes (c :: behind) (members (fuel + 1) entries text)
      (members (more + 1) entries (text ++ c :: behind)) := by
  cases text with
  | nil => exact .lacking _
  | cons d rest =>
      by_cases quote : d = '\x22'
      · subst quote
        rw [List.cons_append, members, members]
        refine (precedes_content foreign (by simp) rest).bind fun key rest => ?_
        simp only [skipGap_foreign foreign]
        cases skipGap rest with
        | nil => exact .lacking _
        | cons e others =>
            by_cases colon : e = ':'
            · subst colon
              simp only [List.cons_append, skipGap_foreign foreign]
              refine (step.value _).bind fun found rest => ?_
              simp only [skipGap_foreign foreign]
              cases skipGap rest with
              | nil => exact .lacking _
              | cons mark last =>
                  by_cases closed : mark = '\x7d'
                  · subst closed
                    exact .read _ _
                  by_cases comma : mark = ','
                  · subst comma
                    simp only [List.cons_append, skipGap_foreign foreign]
                    exact step.members _ _
                  simpa [closed, comma] using .failed _
            · simpa [colon] using .failed _
      · rw [List.cons_append, members, members]
        · exact .failed _
        all_goals simp [quote]

end Step

theorem readersPrecede {fuel more : Nat} (atLeast : fuel ≤ more) :
    ReadersPrecede (c :: behind) fuel more := by
  induction fuel generalizing more with
  | zero => exact ⟨fun _ => .lacking _, fun _ => .lacking _, fun _ _ => .lacking _⟩
  | succ fuel ih =>
      obtain ⟨more, rfl⟩ := Nat.exists_eq_succ_of_ne_zero (Nat.ne_of_gt (Nat.zero_lt_of_lt atLeast))
      have step : ReadersPrecede (c :: behind) fuel more := ih (Nat.le_of_succ_le_succ atLeast)
      exact ⟨precedes_value_succ foreign step, precedes_items_succ foreign step,
        precedes_members_succ foreign step⟩

/-- What goes on with a character outside ASCII behind a whole value is malformed. -/
theorem parse_of_parse_beginning {text : Text} {other : Value} (short : parse text = .ok other) :
    parse (text ++ c :: behind) = .error .malformed := by
  obtain ⟨⟨found, rest⟩, read, ends⟩ := Outcome.bind_eq_ok.mp short
  have nothing : skipGap rest = [] := by
    by_contra remains
    rw [← List.isEmpty_iff] at remains
    simp only [if_neg remains] at ends
    cases ends
  have longer : 2 * text.length + 2 ≤ 2 * (text ++ c :: behind).length + 2 := by simp
  have precedes : Precedes (c :: behind) (value (2 * text.length + 2) (skipGap text))
      (value (2 * (text ++ c :: behind).length + 2) (skipGap text ++ c :: behind)) :=
    (readersPrecede foreign longer).value (skipGap text)
  rw [read] at precedes
  cases whole : value (2 * (text ++ c :: behind).length + 2) (skipGap text ++ c :: behind) with
  | error fault =>
      rw [whole] at precedes
      cases precedes
  | ok result =>
      rw [whole] at precedes
      cases precedes
      rw [parse, skipGap_foreign foreign, whole, Outcome.ok_bind]
      simp only [skipGap_foreign foreign, nothing]
      rfl

end Foreign

theorem reading_ne_malformed {α : Type} (integers : List Text) (result : α) :
    reading integers result ≠ .error .malformed := by
  intro same
  by_cases short : ∀ digits ∈ integers, digits.length ≤ Decimal.digitLimit
  · rw [reading_of_short short] at same
    cases same
  · obtain ⟨digits, -, long⟩ := exists_reading_of_long short result
    rw [long] at same
    cases same

/-- A text by the grammar that is cut before a character outside ASCII is not a text by itself. -/
theorem parse_ne_ok_of_encodes {text : Text} {c : Char} {behind : Text} (foreign : 128 ≤ c.toNat)
    {found : Value} {integers : List Text}
    (encodes : Encodes (text ++ c :: behind) found integers) (other : Value) :
    parse text ≠ .ok other := by
  intro short
  have read := parse_of_encodes encodes
  rw [parse_of_parse_beginning foreign short] at read
  exact reading_ne_malformed integers found read.symm

end Inquiry.Json
