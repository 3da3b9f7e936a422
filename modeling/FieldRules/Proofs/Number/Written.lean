import FieldRules.Proofs.Number.Spelling
import FieldRules.Proofs.Positions

/-!
# Integers written as texts

The text of an integer is the spelling of its decimal digits.  Converting an integer and reading its
text go different ways, and come to the same number (`WordInt.textNumber?_eq`).
-/

set_option autoImplicit false

namespace FieldRules

/-- A natural number of not too many digits is read as it is converted. -/
theorem Binary64.ofDecimal?_eq_ofRatio? (negative : Bool) {n : ℕ}
    (hn : Decimal.digitCount n ≤ 400) : ofDecimal? negative ⟨n, 0⟩ = ofRatio? negative n 1 := by
  unfold ofDecimal?
  dsimp only
  rw [zero_add]
  split_ifs with hsmall hlarge hexponent
  · have hzero : n = 0 := hsmall.resolve_right (by omega)
    rw [hzero]
    rfl
  · omega
  · exact congrArg (ofRatio? negative · 1) (Nat.mul_one n)
  · exact absurd le_rfl hexponent

/-- The decimal of an integer. -/
def Spelling.ofInt (n : ℤ) : Spelling where
  sign := if n < 0 then .minus else .none
  digits :=
    { whole := (Text.numeral n.natAbs).toList
      fraction := none
      isDigit_whole := fun _ => Text.isDigit_of_mem_numeral
      isDigit_fraction := by simp
      hasDigit := by simp [Text.toList_numeral] }
  exponent := none

namespace Spelling

/-- The spelling of an integer is its text. -/
theorem chars_ofInt (n : ℤ) : (ofInt n).chars = (toString n).toList := by
  have hchars : (ofInt n).chars =
      (if n < 0 then Sign.minus else Sign.none).chars ++ (Text.numeral n.natAbs).toList := by
    simp [chars, WrittenDigits.chars, ofInt]
  rw [hchars]
  cases n with
  | ofNat n =>
    rw [if_neg (by simp)]
    rfl
  | negSucc n =>
    have htext : toString (Int.negSucc n) = "-" ++ Text.numeral (n + 1) := rfl
    rw [if_pos (Int.negSucc_lt_zero n), htext, String.toList_append]
    rfl

/-- The spelling of an integer has a minus exactly if the integer is negative. -/
theorem isMinus_ofInt (n : ℤ) : (ofInt n).sign.isMinus = decide (n < 0) := by
  unfold ofInt
  by_cases h : n < 0 <;> simp [h, Sign.isMinus]

/-- The spelling of an integer has its digits, and neither fraction nor exponent. -/
theorem parts_ofInt (n : ℤ) :
    (ofInt n).parts = ⟨decide (n < 0), (Text.numeral n.natAbs).toList, [], 0⟩ := by
  unfold parts
  rw [isMinus_ofInt]
  rfl

/-- The spelling of an integer is read as the integer is rounded. -/
theorem value?_parts_ofInt {n : ℤ} (hn : Decimal.digitCount n.natAbs ≤ 400) :
    (ofInt n).parts.value? = Binary64.ofInt? n := by
  rw [parts_ofInt, NumericText.value?, NumericText.decimal]
  dsimp only
  rw [List.append_nil, Text.numeralValue_numeral]
  exact Binary64.ofDecimal?_eq_ofRatio? _ hn

end Spelling

namespace WordInt

/-- What a signed word holds has few digits. -/
theorem digitCount_le (n : WordInt) : Decimal.digitCount n.val.natAbs ≤ 400 := by
  have hge := n.ge
  have hlt := n.lt
  rw [Nat.one_shiftLeft] at hge hlt
  have hcount : Decimal.digitCount n.val.natAbs ≤ 20 :=
    (Nat.length_toDigits_le_iff (by decide) (by decide)).2 (by omega)
  omega

section Padded

variable {n : WordInt} {s : String}

/-- The text of an integer with white space around it is trimmed to its spelling. -/
theorem chars_ofInt_eq_trim (h : Text.IsPadded (toString n.val).toList s) :
    (Spelling.ofInt n.val).chars = Text.trim s.toList := by
  rw [← Spelling.chars_ofInt] at h
  exact (Text.trim_padded (fun _ => Spelling.isSpace_eq_false_of_mem) h).symm

/-- **Integers as texts.**  An integer is converted to the number that its text is read as. -/
theorem textNumber?_eq (h : Text.IsPadded (toString n.val).toList s) :
    Json.textNumber? s = Binary64.ofInt? n.val := by
  rw [Spelling.textNumber?_eq (chars_ofInt_eq_trim h), Spelling.value?_parts_ofInt n.digitCount_le]

/-- The text of an integer has no digits after the point. -/
theorem fractionDigits_eq_zero (h : Text.IsPadded (toString n.val).toList s) :
    Rules.fractionDigits (.string s) = 0 :=
  Spelling.fractionDigits_eq (chars_ofInt_eq_trim h)

end Padded

end WordInt

end FieldRules
