import Inquiry.Json.Parser
import Inquiry.Proofs.Text.Runs

/-!
# Written texts and numbers

JSON writes the characters of a text as they are or escaped, and a number with a whole part that has
no zeros in front, places and an exponent.  However a text or a number is written, it is read up to
its end, whatever follows.

An integer of too many digits is written like any other but not read; whoever writes values keeps
account of the digits of their integers.
-/

namespace Inquiry.Json

/-! ## Texts -/

/-- Four hexadecimal digits. -/
def IsHexUnit (digits : Text) : Prop :=
  digits.length = 4 ∧ ∀ c ∈ digits, (Text.hexDigit? c).isSome = true

/-- A number that stands for one half of a character. -/
def IsSurrogate (unit : Nat) : Prop :=
  0xD800 ≤ unit ∧ unit ≤ 0xDFFF

/-- A piece of a quoted text and the character that it stands for. -/
inductive Stands : Text → Char → Prop where
  | itself {c : Char} (noControl : 32 ≤ c.toNat) (noQuote : c ≠ '\x22') (noEscape : c ≠ '\\') :
      Stands [c] c
  | short {mark c : Char} (known : shortEscape? mark = some c) : Stands ['\\', mark] c
  | unit {digits : Text} (hex : IsHexUnit digits)
      (whole : ¬IsSurrogate (Text.inBase 16 digits)) :
      Stands ('\\' :: 'u' :: digits) (Char.ofNat (Text.inBase 16 digits))
  | pair {high low : Text} (hexHigh : IsHexUnit high) (hexLow : IsHexUnit low)
      (isHigh : 0xD800 ≤ Text.inBase 16 high ∧ Text.inBase 16 high ≤ 0xDBFF)
      (isLow : 0xDC00 ≤ Text.inBase 16 low ∧ Text.inBase 16 low ≤ 0xDFFF) :
      Stands ('\\' :: 'u' :: (high ++ '\\' :: 'u' :: low))
        (Char.ofNat (0x10000 + (Text.inBase 16 high - 0xD800) * 0x400 +
          (Text.inBase 16 low - 0xDC00)))

/-- What stands between quotes and the text that it stands for. -/
inductive Quotes : Text → Text → Prop where
  | empty : Quotes [] []
  | more {piece text content : Text} {c : Char} (first : Stands piece c)
      (rest : Quotes text content) : Quotes (piece ++ text) (c :: content)

theorem hexUnit?_append {digits : Text} (hex : IsHexUnit digits) (rest : Text) :
    hexUnit? (digits ++ rest) = some (Text.inBase 16 digits, rest) := by
  obtain ⟨four, all⟩ := hex
  match digits, four with
  | [a, b, c, d], _ =>
      have each : ([a, b, c, d].all fun c => (Text.hexDigit? c).isSome) = true :=
        List.all_eq_true.mpr all
      simp only [List.cons_append, List.nil_append, hexUnit?, each, if_true]

theorem escape?_append {piece : Text} {c : Char} (stands : Stands ('\\' :: piece) c)
    (rest : Text) : escape? (piece ++ rest) = some (c, rest) := by
  cases stands with
  | itself noControl noQuote noEscape => exact absurd rfl noEscape
  | @short mark c known =>
      -- The mark of a hexadecimal escape is not one of the short ones.
      have other : mark ≠ 'u' := by
        rintro rfl
        cases known
      rw [List.cons_append, List.nil_append, escape?, known]
      · rfl
      · exact other
  | @unit digits hex whole =>
      have low : ¬(0xDC00 ≤ Text.inBase 16 digits ∧ Text.inBase 16 digits ≤ 0xDFFF) :=
        fun bounds => whole ⟨by omega, bounds.2⟩
      have high : ¬(0xD800 ≤ Text.inBase 16 digits ∧ Text.inBase 16 digits ≤ 0xDBFF) :=
        fun bounds => whole ⟨bounds.1, by omega⟩
      rw [List.cons_append, escape?, hexUnit?_append hex]
      exact (if_neg high).trans (if_neg low)
  | @pair high low hexHigh hexLow isHigh isLow =>
      have second : lowSurrogate? ('\\' :: 'u' :: (low ++ rest)) =
          some (Text.inBase 16 low, rest) := by
        rw [lowSurrogate?, hexUnit?_append hexLow]
        exact if_pos isLow
      rw [List.cons_append, escape?, List.append_assoc, hexUnit?_append hexHigh]
      refine (if_pos isHigh).trans ?_
      rw [List.cons_append, List.cons_append, second]

theorem content_append {text found : Text} (quotes : Quotes text found) {fuel : Nat}
    (enough : text.length < fuel) (rest : Text) :
    content fuel (text ++ '\x22' :: rest) = .ok (found, rest) := by
  induction quotes generalizing fuel with
  | empty =>
      obtain ⟨fuel, rfl⟩ := Nat.exists_eq_succ_of_ne_zero (Nat.ne_of_gt enough)
      rfl
  | @more piece text found c first later ih =>
      obtain ⟨fuel, rfl⟩ := Nat.exists_eq_succ_of_ne_zero (Nat.ne_of_gt (Nat.zero_lt_of_lt enough))
      have shorter : piece ≠ [] → text.length < fuel := by
        intro nonempty
        have longer := List.length_pos_of_ne_nil nonempty
        rw [List.length_append] at enough
        omega
      by_cases escaped : piece.head? = some '\\'
      · obtain ⟨tail, rfl⟩ := List.head?_eq_some_iff.mp escaped
        rw [List.append_assoc, List.cons_append, content, escape?_append first]
        simp only [ih (shorter (List.cons_ne_nil _ _))]
        rfl
      · cases first with
        | itself noControl noQuote noEscape =>
            rw [List.append_assoc, List.cons_append, List.nil_append, content,
              if_neg (Nat.not_lt.mpr noControl), ih (shorter (List.cons_ne_nil _ _))]
            · rfl
            · exact noQuote
            · exact noEscape
        | _ => exact absurd rfl escaped

/-! ## Numbers -/

/-- One ASCII digit or more. -/
def IsDigits (text : Text) : Prop :=
  text ≠ [] ∧ ∀ c ∈ text, c.isDigit = true

/-- Digits with no zeros in front. -/
def IsWhole (text : Text) : Prop :=
  IsDigits text ∧ (text.head? = some '0' → text = ['0'])

/-- What may stand behind a whole part, and its places. -/
inductive Fraction : Text → Text → Prop where
  | absent : Fraction [] []
  | point {places : Text} (digits : IsDigits places) : Fraction ('.' :: places) places

/-- What may stand behind a fraction, and the power of ten that it means. -/
inductive Exponent : Text → Int → Prop where
  | absent : Exponent [] 0
  | plain {mark : Char} {power : Text} (known : mark = 'e' ∨ mark = 'E')
      (digits : IsDigits power) : Exponent (mark :: power) (Text.inBase 10 power)
  | positive {mark : Char} {power : Text} (known : mark = 'e' ∨ mark = 'E')
      (digits : IsDigits power) : Exponent (mark :: '+' :: power) (Text.inBase 10 power)
  | negative {mark : Char} {power : Text} (known : mark = 'e' ∨ mark = 'E')
      (digits : IsDigits power) : Exponent (mark :: '-' :: power) (-Text.inBase 10 power)

/-- A number behind its sign, the value with the sign, and the digits of the integers in it. -/
inductive Number (negative : Bool) : Text → Value → List Text → Prop where
  | integer {whole : Text} (digits : IsWhole whole) :
      Number negative whole
        (.int (if negative then -(Text.inBase 10 whole : Int) else Text.inBase 10 whole)) [whole]
  | float {whole fraction places exponent : Text} {power : Int} (digits : IsWhole whole)
      (behind : Fraction fraction places) (scaled : Exponent exponent power)
      (given : fraction ≠ [] ∨ exponent ≠ []) :
      Number negative (whole ++ (fraction ++ exponent))
        (.float (if negative then
            -Decimal.floatOfDecimal (Text.inBase 10 (whole ++ places)) (power - places.length)
          else Decimal.floatOfDecimal (Text.inBase 10 (whole ++ places)) (power - places.length)))
        []

/-- What is read where integers of the given digits stand: the first of them that is too long ends
the reading. -/
def reading {α : Type} (integers : List Text) (result : α) : Except ReadError α :=
  match integers.find? fun digits => Decimal.digitLimit < digits.length with
  | some digits => .error (.integerTooLong digits.length)
  | none => .ok result

theorem reading_nil {α : Type} (result : α) : reading [] result = .ok result := rfl

theorem reading_of_short {α : Type} {integers : List Text} {result : α}
    (short : ∀ digits ∈ integers, digits.length ≤ Decimal.digitLimit) :
    reading integers result = .ok result := by
  have none : integers.find? (fun digits => Decimal.digitLimit < digits.length) = none := by
    simpa using short
  rw [reading, none]

theorem exists_reading_of_long {α : Type} {integers : List Text}
    (long : ¬∀ digits ∈ integers, digits.length ≤ Decimal.digitLimit) (result : α) :
    ∃ digits ∈ integers, reading integers result = .error (.integerTooLong digits.length) := by
  cases found : integers.find? (fun digits => Decimal.digitLimit < digits.length) with
  | none => exact absurd (by simpa using found) long
  | some digits =>
      exact ⟨digits, List.mem_of_find?_eq_some found, by rw [reading, found]⟩

theorem reading_singleton {α : Type} (digits : Text) (result : α) :
    reading [digits] result =
      if Decimal.digitLimit < digits.length then .error (.integerTooLong digits.length)
      else .ok result := by
  rw [reading, List.find?_singleton]
  by_cases long : Decimal.digitLimit < digits.length
  · rw [if_pos long, if_pos (decide_eq_true long)]
  · rw [if_neg long, if_neg fun told => long (of_decide_eq_true told)]

/-- A character that ends a value. -/
def closes (c : Char) : Bool :=
  isGap c || c == ',' || c == ']' || c == '\x7d'

/-- A character that goes on with a number. -/
def prolongs (c : Char) : Bool :=
  c.isDigit || c == '.' || c == 'e' || c == 'E'

theorem prolongs_of_closes {c : Char} (closing : closes c = true) : prolongs c = false := by
  simp only [closes, isGap, Bool.or_eq_true, beq_iff_eq, or_assoc] at closing
  rcases closing with rfl | rfl | rfl | rfl | rfl | rfl | rfl <;> rfl

theorem isDigit_of_prolongs {c : Char} (ends : prolongs c = false) :
    c.isDigit = false ∧ c ≠ '.' ∧ ¬(c = 'e' ∨ c = 'E') := by
  simpa [prolongs, and_assoc] using ends

theorem undotted_of_ends {rest : Text} (ends : rest.head?.any prolongs = false) :
    rest.head?.any Char.isDigit = false ∧ rest.head? ≠ some '.' := by
  cases rest with
  | nil => exact ⟨rfl, nofun⟩
  | cons c tail =>
      obtain ⟨digit, point, -⟩ := isDigit_of_prolongs (by simpa using ends)
      exact ⟨by simpa using digit, by simpa using point⟩

theorem Exponent.undotted {exponent rest : Text} {power : Int}
    (scaled : Exponent exponent power) (ends : rest.head?.any prolongs = false) :
    (exponent ++ rest).head?.any Char.isDigit = false ∧ (exponent ++ rest).head? ≠ some '.' := by
  cases scaled with
  | absent => exact undotted_of_ends ends
  | plain known | positive known | negative known => rcases known with rfl | rfl <;> simp

theorem Fraction.undigited {fraction places rest : Text} (behind : Fraction fraction places)
    (ends : rest.head?.any Char.isDigit = false) :
    (fraction ++ rest).head?.any Char.isDigit = false := by
  cases behind with
  | absent => exact ends
  | point => rfl

theorem digits_append {digits rest : Text} (all : ∀ c ∈ digits, c.isDigit = true)
    (ends : rest.head?.any Char.isDigit = false) :
    Json.digits (digits ++ rest) = (digits, rest) := by
  obtain ⟨taken, dropped⟩ := Text.span_append all ends
  rw [Json.digits, taken, dropped]

/-- The whole part is split off as it is read. -/
theorem whole_append {first : Char} {others rest : Text} (whole : IsWhole (first :: others))
    (ends : rest.head?.any Char.isDigit = false) :
    (if first = '0' then (['0'], others ++ rest) else digits (first :: (others ++ rest))) =
      (first :: others, rest) := by
  obtain ⟨⟨-, all⟩, alone⟩ := whole
  by_cases zero : first = '0'
  · obtain ⟨rfl, rfl⟩ := List.cons.inj (alone (congrArg some zero))
    rfl
  · rw [if_neg zero]
    exact digits_append all ends

theorem fraction?_append {fraction places rest : Text} (behind : Fraction fraction places)
    (ends : rest.head?.any Char.isDigit = false) (pointless : rest.head? ≠ some '.') :
    (fraction? (fraction ++ rest)).getD ([], fraction ++ rest) = (places, rest) := by
  cases behind with
  | absent =>
      have none : fraction? rest = none := by
        cases rest with
        | nil => rfl
        | cons c tail =>
            rw [fraction?]
            exact fun _ same => pointless (congrArg List.head? same)
      rw [List.nil_append, none, Option.getD_none]
  | point digits =>
      rw [List.cons_append, fraction?, digits_append digits.2 ends]
      simp [digits.1]

theorem exponent?_of_ends {rest : Text} (ends : rest.head?.any prolongs = false) :
    exponent? rest = none := by
  cases rest with
  | nil => rfl
  | cons c tail =>
      have other := (isDigit_of_prolongs (by simpa using ends)).2.2
      simp [exponent?, other]

theorem exponent?_append {exponent rest : Text} {power : Int} (scaled : Exponent exponent power)
    (given : exponent ≠ []) (ends : rest.head?.any Char.isDigit = false) :
    exponent? (exponent ++ rest) = some (power, rest) := by
  cases scaled with
  | absent => exact absurd rfl given
  | @plain mark power known digits =>
      obtain ⟨first, others, rfl⟩ := List.exists_cons_of_ne_nil digits.1
      have digit := digits.2 first List.mem_cons_self
      have minus : first ≠ '-' := by
        rintro rfl
        cases digit
      have plus : first ≠ '+' := by
        rintro rfl
        cases digit
      have parted := digits_append digits.2 ends
      rw [List.cons_append] at parted
      simp [exponent?, known, minus, plus, parted]
  | @positive mark power known digits =>
      simp [exponent?, known, digits_append digits.2 ends, digits.1]
  | @negative mark power known digits =>
      simp [exponent?, known, digits_append digits.2 ends, digits.1]

theorem unsigned_append {negative : Bool} {text rest : Text} {value : Value}
    {integers : List Text} (number : Number negative text value integers)
    (ends : rest.head?.any prolongs = false) :
    unsigned negative (text ++ rest) = reading integers (value, rest) := by
  cases number with
  | @integer whole digits =>
      obtain ⟨first, others, rfl⟩ := List.exists_cons_of_ne_nil digits.1.1
      have digit := digits.1.2 first List.mem_cons_self
      obtain ⟨plain, pointless⟩ := undotted_of_ends ends
      have parted := fraction?_append .absent plain pointless
      rw [List.nil_append] at parted
      rw [List.cons_append, unsigned, if_neg (by simp [digit])]
      simp only [whole_append digits plain, parted, exponent?_of_ends ends]
      rw [reading_singleton]
      rfl
  | @float whole fraction places exponent power digits behind scaled given =>
      obtain ⟨first, others, rfl⟩ := List.exists_cons_of_ne_nil digits.1.1
      have digit := digits.1.2 first List.mem_cons_self
      obtain ⟨plain, pointless⟩ := scaled.undotted ends
      rw [List.cons_append, List.cons_append, unsigned, if_neg (by simp [digit])]
      simp only [List.append_assoc, whole_append digits (behind.undigited plain),
        fraction?_append behind plain pointless]
      by_cases empty : exponent = []
      · subst empty
        cases scaled
        cases behind with
        | absent => exact absurd given (by simp)
        | point all =>
            rw [List.nil_append, exponent?_of_ends ends]
            simp [all.1, reading_nil]
      · rw [exponent?_append scaled empty (undotted_of_ends ends).1]
        simp [reading_nil]

end Inquiry.Json
