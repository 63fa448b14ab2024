import Inquiry.Decimal.Fixed
import Inquiry.Proofs.Decimal.Integer
import Inquiry.Proofs.Text.Lines
import Inquiry.Text.Quoted

/-!
# Texts in one line

Lines that are joined are found again if they hold no line feed themselves.  Numbers never do, nor
do quoted texts, in which a line feed is escaped.
-/

namespace Inquiry

namespace Text

/-- The text holds no line feed. -/
def Unbroken (text : Text) : Prop :=
  '\n' ∉ text

instance : DecidablePred Unbroken :=
  fun _ => inferInstanceAs (Decidable (_ ∉ _))

theorem unbroken_iff {text : Text} : text.Unbroken ↔ ∀ c ∈ text, (c == '\n') = false := by
  simp only [beq_eq_false_iff_ne]
  exact List.forall_mem_ne'.symm

@[simp] theorem unbroken_nil : Unbroken [] :=
  List.not_mem_nil

@[simp] theorem unbroken_cons {c : Char} {text : Text} :
    Unbroken (c :: text) ↔ c ≠ '\n' ∧ text.Unbroken := by
  simp [Unbroken, not_or, eq_comm]

@[simp] theorem unbroken_append {front back : Text} :
    (front ++ back).Unbroken ↔ front.Unbroken ∧ back.Unbroken := by
  simp [Unbroken, not_or]

theorem Unbroken.take {text : Text} (whole : text.Unbroken) (width : Nat) :
    Unbroken (text.take width) :=
  fun member => whole (List.mem_of_mem_take member)

theorem unbroken_blanks (count : Nat) : Unbroken (List.replicate count ' ') := by
  intro member
  cases List.eq_of_mem_replicate member

theorem Unbroken.padLeft {text : Text} (whole : text.Unbroken) (width : Nat) :
    (Text.padLeft width text).Unbroken :=
  unbroken_append.mpr ⟨unbroken_blanks _, whole⟩

theorem Unbroken.padRight {text : Text} (whole : text.Unbroken) (width : Nat) :
    (Text.padRight width text).Unbroken :=
  unbroken_append.mpr ⟨whole, unbroken_blanks _⟩

theorem unbroken_join {separator : Text} (between : separator.Unbroken) {pieces : List Text}
    (all : ∀ piece ∈ pieces, piece.Unbroken) : (join separator pieces).Unbroken := by
  intro member
  rcases mem_join member with apart | ⟨piece, listed, within⟩
  · exact between apart
  · exact all piece listed within

/-! ## Lines -/

/-- The lines of a text, which line feeds end. -/
def feedLines (text : Text) : List Text :=
  text.splitOnP (· == '\n')

theorem feedLines_of_unbroken {text : Text} (whole : text.Unbroken) : feedLines text = [text] :=
  List.splitOnP_eq_singleton (unbroken_iff.mp whole)

theorem flatMap_feedLines {lines : List Text} (all : ∀ line ∈ lines, line.Unbroken) :
    lines.flatMap feedLines = lines :=
  flatMap_splitOnP fun line member => unbroken_iff.mp (all line member)

theorem feedLines_join {lines : List Text} (nonempty : lines ≠ []) :
    feedLines (join "\n" lines) = lines.flatMap feedLines :=
  splitOnP_join rfl nonempty

/-- Behind lines that are ended one by one, a last one begins. -/
theorem feedLines_ended (lines : List Text) :
    feedLines (lines.flatMap (· ++ "\n".toList)) = lines.flatMap feedLines ++ [[]] := by
  have joined : lines.flatMap (· ++ "\n".toList) = join "\n" (lines ++ [[]]) := by
    induction lines with
    | nil => rfl
    | cons line rest ih =>
        obtain ⟨next, others, later⟩ := List.exists_cons_of_ne_nil (l := rest ++ [[]]) (by simp)
        rw [List.flatMap_cons, ih, List.cons_append, later, join_cons_cons]
  rw [joined, feedLines_join (by simp), List.flatMap_append]
  rfl

end Text

/-! ## Numbers -/

namespace Decimal

open Text (Unbroken)

theorem unbroken_ofNat (n : Nat) : (ofNat n).Unbroken := by
  intro member
  cases isDigit_of_mem_ofNat member

theorem unbroken_ofInt (n : Int) : (ofInt n).Unbroken := by
  cases n with
  | ofNat n => exact unbroken_ofNat n
  | negSucc n => exact Text.unbroken_cons.mpr ⟨by decide, unbroken_ofNat (n + 1)⟩

theorem unbroken_withPlaces (places units : Nat) : (withPlaces places units).Unbroken := by
  have padded :
      Unbroken (List.replicate (places + 1 - (ofNat units).length) '0' ++ ofNat units) := by
    refine Text.unbroken_append.mpr ⟨fun member => ?_, unbroken_ofNat units⟩
    cases List.eq_of_mem_replicate member
  simp only [withPlaces]
  split
  · exact padded
  · refine Text.unbroken_append.mpr ⟨Text.unbroken_append.mpr ⟨padded.take _, by decide⟩, ?_⟩
    exact fun member => padded (List.mem_of_mem_drop member)

theorem unbroken_fixed (places : Nat) (number : Float) : (fixed places number).Unbroken := by
  have signed {negative : Bool} {text : Text} (whole : text.Unbroken) :
      Unbroken (if negative then '-' :: text else text) := by
    cases negative with
    | false => exact whole
    | true => exact Text.unbroken_cons.mpr ⟨by decide, whole⟩
  simp only [fixed]
  split
  · decide
  · exact signed (by decide)
  · exact signed (unbroken_withPlaces _ _)

end Decimal

/-! ## Quoted texts -/

namespace Text

theorem digitChar_ne_feed (digit : Fin 16) : Nat.digitChar digit ≠ '\n' := by
  decide +revert

theorem unbroken_toDigits (n : Nat) : Unbroken (Nat.toDigits 16 n) := by
  induction n using Nat.strongRecOn with
  | ind n ih =>
      rcases Nat.lt_or_ge n 16 with small | large
      · rw [Nat.toDigits_of_lt_base small]
        exact unbroken_cons.mpr ⟨digitChar_ne_feed ⟨n, small⟩, unbroken_nil⟩
      · rw [Nat.toDigits_of_base_le (by decide) large]
        exact unbroken_append.mpr ⟨ih _ (by omega),
          unbroken_cons.mpr ⟨digitChar_ne_feed ⟨n % 16, Nat.mod_lt n (by decide)⟩, unbroken_nil⟩⟩

theorem unbroken_hexDigits (width n : Nat) : (hexDigits width n).Unbroken := by
  refine unbroken_append.mpr ⟨fun member => ?_, unbroken_toDigits n⟩
  cases List.eq_of_mem_replicate member

theorem unbroken_escaped {quote : Char} (solid : quote ≠ '\n') (c : Char) :
    (escaped quote c).Unbroken := by
  unfold escaped
  split
  next plain =>
    have other : c ≠ '\n' := by
      rintro rfl
      rcases plain with same | same
      · exact solid same.symm
      · cases same
    exact unbroken_cons.mpr ⟨by decide, unbroken_cons.mpr ⟨other, unbroken_nil⟩⟩
  next =>
    split
    · decide
    next other =>
      repeat' split
      · decide
      · decide
      · exact unbroken_cons.mpr ⟨other, unbroken_nil⟩
      all_goals exact unbroken_append.mpr ⟨by decide, unbroken_hexDigits _ _⟩

theorem unbroken_quoted (text : Text) : (quoted text).Unbroken := by
  have solid : quoteFor text ≠ '\n' := by
    rw [quoteFor]
    split <;> decide
  have content : Unbroken (text.flatMap (escaped (quoteFor text))) := by
    intro member
    obtain ⟨c, -, within⟩ := List.mem_flatMap.mp member
    exact unbroken_escaped solid c within
  simp only [quoted, unbroken_append, unbroken_cons]
  exact ⟨⟨solid, content⟩, solid, unbroken_nil⟩

theorem unbroken_quotedList (texts : List Text) : (quotedList texts).Unbroken := by
  have all : ∀ piece ∈ texts.map quoted, piece.Unbroken :=
    List.forall_mem_map.mpr fun text _ => unbroken_quoted text
  simp only [quotedList, unbroken_append]
  exact ⟨⟨by decide, unbroken_join (by decide) all⟩, by decide⟩

end Text

end Inquiry
