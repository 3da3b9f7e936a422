import FieldRules.Proofs.Number.Spelling
import FieldRules.Proofs.Rules.CountBounds

/-!
# Asking for decimals

The option `decimals` of the rule `numeric` asks a text for digits after its point.  Reading the
text as a number and counting those digits cut it by themselves; the rule passes exactly the
spellings that have the digits (`Rules.numeric_decimals_iff`).
-/

set_option autoImplicit false

namespace FieldRules.Rules

/-- The arguments that ask for digits after the point. -/
def decimalsArgs (d : WordInt) : Args :=
  .options [("decimals", .number (.int d))]

/-- Whether a text is a number, white space around it, that is not too large and is written with
at least some digits after its point. -/
def HasDecimals (s : String) (d : ℤ) : Prop :=
  ∃ w : Spelling, w.chars = Text.trim s.toList ∧ |w.denoted| < Binary64.limit ∧
    d ≤ w.fraction.length

/-- A spelling with enough fraction digits is a text that is read and has so many. -/
theorem hasDecimals_iff {s : String} {d : ℤ} :
    HasDecimals s d ↔
      (Json.textNumber? s).isSome = true ∧ d ≤ (fractionDigits (.string s) : ℤ) := by
  have hiff {w : Spelling} (hw : w.chars = Text.trim s.toList) :
      (Json.textNumber? s).isSome = true ∧ d ≤ (fractionDigits (.string s) : ℤ) ↔
        |w.denoted| < Binary64.limit ∧ d ≤ w.fraction.length := by
    rw [Spelling.textNumber?_eq hw, Spelling.fractionDigits_eq hw, w.parts.isSome_value?_iff]
    rfl
  constructor
  · rintro ⟨w, hw, haccepted⟩
    exact (hiff hw).2 haccepted
  · intro h
    obtain ⟨w, hw⟩ := Spelling.exists_of_isSome_textNumber? h.1
    exact ⟨w, hw, (hiff hw).1 h⟩

/-- Zero with a point and any number of digits after it. -/
def zeros (count : ℕ) : Spelling where
  sign := .none
  digits :=
    { whole := ['0']
      fraction := some (List.replicate count '0')
      isDigit_whole := by simp
      isDigit_fraction := fun c hc => by rw [List.eq_of_mem_replicate hc]; rfl
      hasDigit := by simp }
  exponent := none

/-- A spelling of zeros denotes zero. -/
theorem denoted_zeros (count : ℕ) : (zeros count).denoted = 0 := by
  have hwhole : Text.numeralValue (zeros count).parts.whole = 0 := rfl
  have hfraction : Text.numeralValue (zeros count).parts.fraction = 0 := by
    show Nat.ofDigitChars 10 (List.replicate count '0') 0 = 0
    rw [Nat.ofDigitChars_replicate_zero, Nat.mul_zero]
  have hnegative : (zeros count).parts.negative = false := rfl
  rw [Spelling.denoted, NumericText.denoted, hwhole, hfraction, hnegative, Binary64.signed,
    if_neg Bool.false_ne_true, Nat.cast_zero, zero_div, add_zero, zero_mul]

/-- Numbers are written with any number of digits after the point. -/
theorem exists_fractionDigits_eq (count : ℕ) :
    ∃ s, (Json.textNumber? s).isSome = true ∧ fractionDigits (.string s) = count := by
  have hpadded := Text.isPadded_toList (String.ofList (zeros count).chars)
  rw [String.toList_ofList] at hpadded
  have htrim : (zeros count).chars = Text.trim (String.ofList (zeros count).chars).toList :=
    (Text.trim_padded (fun _ => Spelling.isSpace_eq_false_of_mem) hpadded).symm
  have hlimit : |(zeros count).denoted| < Binary64.limit := by
    rw [denoted_zeros, abs_zero]
    exact one_pos.trans_le Binary64.one_le_limit
  refine ⟨String.ofList (zeros count).chars, ?_, ?_⟩
  · rw [Spelling.textNumber?_eq htrim]
    exact (NumericText.isSome_value?_iff _).2 hlimit
  · rw [Spelling.fractionDigits_eq htrim]
    exact List.length_replicate

/-- A signed integer of a word is read as it is. -/
theorem integer?_int {d : WordInt} (hd : d.val < 2 ^ 63) :
    Json.integer? (.number (.int d)) = some d.val := by
  rw [← Nat.cast_ofNat, ← Nat.cast_pow, ← Nat.one_shiftLeft] at hd
  rw [Json.integer?, if_pos hd]

/-- A text is asked for nothing but to be a number and to have the digits. -/
theorem numeric_decimalsArgs_eq (s : String) {d : WordInt} (hd : d.val < 2 ^ 63) :
    numeric (some (.string s)) (decimalsArgs d) =
      .ofBool ((Json.textNumber? s).isSome &&
        decide (d.val ≤ (fractionDigits (.string s) : ℤ))) := by
  have hset : (decimalsArgs d).SetsOnly numericOptions "decimals" (.number (.int d)) :=
    .set_empty (by decide) (by decide) rfl
  cases hx : Json.textNumber? s with
  | none =>
    have hread : Json.number? (.string s) = none := hx
    rw [numeric, hread]
    rfl
  | some x =>
    have hread : Json.number? (.string s) = some x := hx
    rw [numeric_eq_of_setsOnly hread hset, integer?_int hd, ofVerdicts_ofRead_some,
      Option.isSome_some, Bool.true_and]

/-- **Asking for decimals.**  A text passes exactly if it is a number that is not too large, with at
least as many digits after its point as are asked for, and else it fails. -/
theorem numeric_decimals_iff (s : String) {d : WordInt} (hd : d.val < 2 ^ 63) :
    (numeric (some (.string s)) (decimalsArgs d) = .pass ↔ HasDecimals s d.val) ∧
      (numeric (some (.string s)) (decimalsArgs d) = .fail ↔ ¬HasDecimals s d.val) := by
  rw [numeric_decimalsArgs_eq s hd, Outcome.ofBool_eq_pass_iff, Outcome.ofBool_eq_fail_iff,
    ← Bool.not_eq_true, Bool.and_eq_true, decide_eq_true_iff, hasDecimals_iff]
  exact ⟨Iff.rfl, Iff.rfl⟩

/-- The digits of the exponent do not count. -/
theorem numeric_decimals_iff_padded :
    let two : WordInt := { val := 2 }
    two.val < 2 ^ 63 ∧ HasDecimals " +1.50E-2 " two.val ∧
      numeric (some (.string " +1.50E-2 ")) (decimalsArgs two) = .pass := by
  intro two
  have htwo : two.val < 2 ^ 63 := by decide
  have hdecimals : HasDecimals " +1.50E-2 " two.val :=
    hasDecimals_iff.2 ⟨by decide +kernel, by decide +kernel⟩
  exact ⟨htwo, hdecimals, (numeric_decimals_iff " +1.50E-2 " htwo).1.2 hdecimals⟩

end FieldRules.Rules
