import AdFilter.Text.Numeral
import Mathlib.Data.Nat.Digits.Lemmas

namespace AdFilter

/-!
# Numbers and their digits

The digits that a number is written with are read back as the number, in decimal without needless zeros in front, and in
hexadecimal with as many zeros in front as the width asks for.  An integer is written in decimal exactly if it has no more
digits than the limit, and no other one is read.
-/

namespace Text

variable {number digit width : Nat} {c : Char} {digits : Text}

/-! ## Decimal digits -/

theorem decimalValue_toDigits
    (number : Nat) :
    decimalValue (Nat.toDigits 10 number) = number := by
  have sameReader : decimalValue = (Nat.ofDigitChars 10 · 0) := by
    funext digits
    rw [decimalValue, Nat.ofDigitChars_eq_foldl]
  rw [sameReader]
  exact Nat.ofDigitChars_toDigits (by decide) (by decide)

/-- A zero stands in front only if it is the whole number. -/
theorem head?_toDigits_of_pos
    (positive : 0 < number) :
    (Nat.toDigits 10 number).head? ≠ some '0' := by
  induction number using Nat.strong_induction_on with
  | _ number inductionHypothesis =>
      by_cases single : number < 10
      · rw [Nat.toDigits_of_lt_base single]
        have positiveDigits :
            ∀ digit < 10, 0 < digit → [digit.digitChar].head? ≠ some '0' := by
          decide
        exact positiveDigits number single positive
      · have several : 10 ≤ number := Nat.not_lt.mp single
        have front :=
          inductionHypothesis (number / 10) (by omega) (by omega)
        rw [Nat.toDigits_of_base_le (by decide) several,
          List.head?_append_of_ne_nil _ Nat.toDigits_ne_nil]
        exact front

theorem length_toDigits_pow
    (exponent : Nat) :
    (Nat.toDigits 10 (10 ^ exponent)).length = exponent + 1 := by
  have atMost : (Nat.toDigits 10 (10 ^ exponent)).length ≤ exponent + 1 :=
    (Nat.length_toDigits_le_iff (by decide) (Nat.succ_pos exponent)).mpr
      (Nat.pow_lt_pow_right (by decide) (Nat.lt_succ_self exponent))
  rcases Nat.eq_zero_or_pos exponent with rfl | positive
  · rfl
  · have more : ¬ (Nat.toDigits 10 (10 ^ exponent)).length ≤ exponent :=
      fun short =>
        absurd ((Nat.length_toDigits_le_iff (by decide) positive).mp short)
          (Nat.lt_irrefl _)
    omega

/-- Decimal digits stand for less than the power of ten that has one digit more. -/
theorem decimalValue_lt_pow
    (areDigits : ∀ c ∈ digits, c.isDigit = true) :
    decimalValue digits < 10 ^ digits.length := by
  induction digits using List.reverseRecOn with
  | nil =>
      decide
  | append_singleton front last inductionHypothesis =>
      have frontSmall :=
        inductionHypothesis fun c member =>
          areDigits c (List.mem_append_left [last] member)
      have lastSmall : last.toNat - '0'.toNat < 10 := by
        have isDigit := areDigits last (by simp)
        rw [Char.isDigit_iff_toNat] at isDigit
        exact Nat.sub_lt_left_of_lt_add isDigit.1 (Nat.lt_succ_of_le isDigit.2)
      have lastAdded :
          decimalValue (front ++ [last]) =
            10 * decimalValue front + (last.toNat - '0'.toNat) := by
        rw [decimalValue, List.foldl_append]
        rfl
      rw [lastAdded, List.length_append, List.length_singleton, Nat.pow_succ]
      omega

/-! ## Hexadecimal digits -/

theorem hexValue?_digitChar
    (small : digit < 16) :
    hexValue? digit.digitChar = some digit := by
  revert digit
  decide

theorem hexNumber?_concat
    (digits : Text)
    (last : Char) :
    hexNumber? (digits ++ [last]) =
      (hexNumber? digits).bind fun value =>
        (hexValue? last).map (16 * value + ·) := by
  rw [hexNumber?, List.foldlM_append]
  simp only [List.foldlM_cons, List.foldlM_nil, bind_pure]
  rfl

theorem hexNumber?_toDigits
    (number : Nat) :
    hexNumber? (Nat.toDigits 16 number) = some number := by
  induction number using Nat.strong_induction_on with
  | _ number inductionHypothesis =>
      by_cases single : number < 16
      · rw [Nat.toDigits_of_lt_base single, ← List.nil_append [_],
          hexNumber?_concat, hexValue?_digitChar single]
        simp [hexNumber?]
      · have several : 16 ≤ number := Nat.not_lt.mp single
        have lastDigit : number % 16 < 16 := Nat.mod_lt _ (by decide)
        rw [Nat.toDigits_of_base_le (by decide) several, hexNumber?_concat,
          inductionHypothesis (number / 16) (by omega),
          hexValue?_digitChar lastDigit]
        simp [Nat.div_add_mod]

theorem hexNumber?_replicate_append
    (count : Nat)
    (digits : Text) :
    hexNumber? (List.replicate count '0' ++ digits) = hexNumber? digits := by
  induction count with
  | zero =>
      rfl
  | succ count inductionHypothesis =>
      rw [← inductionHypothesis]
      rfl

theorem hexNumber?_hexDigits
    (width number : Nat) :
    hexNumber? (hexDigits width number) = some number := by
  rw [hexDigits, hexNumber?_replicate_append, hexNumber?_toDigits]

/-- A number that fits into the width has exactly that many digits. -/
theorem length_hexDigits
    (positive : 0 < width)
    (fits : number < 16 ^ width) :
    (hexDigits width number).length = width := by
  have short : (Nat.toDigits 16 number).length ≤ width :=
    (Nat.length_toDigits_le_iff (by decide) positive).mpr fits
  rw [hexDigits, List.length_append, List.length_replicate]
  omega

end Text

namespace Numeral

variable {value : Int} {number : Nat} {text digits : Text}

/-! ## Integers up to the limit -/

theorem length_toDigits_le_digitLimit_iff :
    (Nat.toDigits 10 number).length ≤ digitLimit ↔
      number < 10 ^ digitLimit :=
  Nat.length_toDigits_le_iff (by decide) (by decide)

/-- What is written of an integer: its digits, or those of its opposite after a minus sign. -/
theorem exists_of_write_eq_ok
    (written : write value = .ok text) :
    ∃ number : Nat, number < 10 ^ digitLimit ∧
      ((value = number ∧ text = Nat.toDigits 10 number) ∨
        (value = -number ∧ text = '-' :: Nat.toDigits 10 number)) := by
  unfold write at written
  dsimp only at written
  split at written
  · rename_i short
    refine
      ⟨value.natAbs, length_toDigits_le_digitLimit_iff.mp short, ?_⟩
    have shape := Except.ok.inj written
    split at shape
    · rename_i negative
      exact Or.inr ⟨by omega, shape.symm⟩
    · rename_i notNegative
      exact Or.inl ⟨by omega, shape.symm⟩
  · cases written

/-- The integers that are written are those below the power of ten with one digit more than the limit. -/
theorem exists_write_eq_ok_iff :
    (∃ text, write value = .ok text) ↔ value.natAbs < 10 ^ digitLimit := by
  constructor
  · rintro ⟨text, written⟩
    obtain ⟨number, short, ⟨rfl, _⟩ | ⟨rfl, _⟩⟩ :=
      exists_of_write_eq_ok written
    · exact short
    · rwa [Int.natAbs_neg]
  · intro short
    exact ⟨_, if_pos (length_toDigits_le_digitLimit_iff.mpr short)⟩

theorem write_of_long
    (long : 10 ^ digitLimit ≤ value.natAbs) :
    write value = .error .tooLongToWrite :=
  if_neg fun short =>
    absurd (length_toDigits_le_digitLimit_iff.mp short) (Nat.not_lt.mpr long)

theorem read_toDigits
    (short : number < 10 ^ digitLimit) :
    read (Nat.toDigits 10 number) = .ok number := by
  rw [read, if_pos (length_toDigits_le_digitLimit_iff.mpr short),
    Text.decimalValue_toDigits]

theorem read_toDigits_of_long
    (long : 10 ^ digitLimit ≤ number) :
    read (Nat.toDigits 10 number) =
      .error (.tooLongToRead (Nat.toDigits 10 number).length) :=
  if_neg fun short =>
    absurd (length_toDigits_le_digitLimit_iff.mp short) (Nat.not_lt.mpr long)

/-- No integer is read that would not be written. -/
theorem lt_of_read_eq_ok
    (areDigits : ∀ c ∈ digits, c.isDigit = true)
    (isRead : read digits = .ok number) :
    number < 10 ^ digitLimit := by
  unfold read at isRead
  split at isRead
  · rename_i short
    rw [← Except.ok.inj isRead]
    calc
      Text.decimalValue digits < 10 ^ digits.length :=
        Text.decimalValue_lt_pow areDigits
      _ ≤ 10 ^ digitLimit := Nat.pow_le_pow_right (by decide) short
  · cases isRead

end Numeral

end AdFilter
