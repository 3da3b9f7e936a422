import FieldRules.Loose
import FieldRules.Proofs.Number.Overflow

/-!
# The numbers that values denote

`Json.denoted?` is the number that a value is or denotes, and `Json.number?` reads it as the number
nearest to it if it is not too large (`Json.exists_number?_eq`).
-/

set_option autoImplicit false

namespace FieldRules

open Binary64 (signed)

namespace NumericText

/-- The number that a text denotes. -/
def denoted (t : NumericText) : ℚ :=
  signed t.negative
    ((Text.numeralValue t.whole + Text.numeralValue t.fraction / 10 ^ t.fraction.length) *
      10 ^ t.exponent)

/-- Moving the point behind the last digit does not change the number. -/
theorem denoted_eq (t : NumericText) : t.denoted = signed t.negative t.decimal.value := by
  have hdigits : Text.numeralValue (t.whole ++ t.fraction) =
      10 ^ t.fraction.length * Text.numeralValue t.whole + Text.numeralValue t.fraction := by
    rw [Text.numeralValue, Nat.ofDigitChars_append, Nat.ofDigitChars_eq_ofDigitChars_zero]
    rfl
  have hten : (10 : ℚ) ^ t.fraction.length ≠ 0 := by positivity
  rw [denoted, Decimal.value, decimal]
  dsimp only
  rw [hdigits, zpow_sub₀ (by norm_num), zpow_natCast]
  push_cast
  congr 1
  field_simp

/-- A text that denotes a number that is not too large is read as the number nearest to it. -/
theorem exists_value?_eq {t : NumericText} (h : |t.denoted| < 2 ^ 1023) :
    ∃ x : Binary64, t.value? = some x ∧ x.IsNearest t.denoted := by
  rw [denoted_eq, Binary64.abs_signed _ t.decimal.value_nonneg] at h
  rw [denoted_eq]
  exact Binary64.exists_ofDecimal?_eq t.negative (h.trans_le Binary64.two_pow_le_limit)

end NumericText

namespace Json

/-- The number that a value is or denotes, not rounded. -/
def denoted? : Json → Option ℚ
  | .number (.int n) => some n.val
  | .number (.float x) => some x.value
  | .string s => (NumericText.ofText? s).map NumericText.denoted
  | _ => none

/-- A value that is or denotes a number that is not too large is read as the number nearest to
it. -/
theorem exists_number?_eq {v : Json} {q : ℚ} (h : v.denoted? = some q) (hq : |q| < 2 ^ 1023) :
    ∃ x : Binary64, v.number? = some x ∧ x.IsNearest q := by
  cases v with
  | number n =>
    cases n with
    | int n =>
      obtain rfl := Option.some.inj h
      obtain ⟨x, hx, hnearest⟩ := Binary64.exists_ofInt?_eq n.natAbs_lt
      exact ⟨x, hx, hnearest⟩
    | float x =>
      obtain rfl := Option.some.inj h
      exact ⟨x, rfl, Binary64.isNearest_of_value_eq rfl⟩
  | string s =>
    obtain ⟨t, ht, rfl⟩ := Option.map_eq_some_iff.1 h
    obtain ⟨x, hx, hnearest⟩ := NumericText.exists_value?_eq hq
    refine ⟨x, ?_, hnearest⟩
    rw [number?, textNumber?, ht]
    exact hx
  | _ => cases h

/-- A value that denotes no rational is read as no number. -/
theorem number?_eq_none {v : Json} (h : v.denoted? = none) : v.number? = none := by
  cases v with
  | number n => cases n <;> cases h
  | string s =>
    rw [number?, textNumber?, Option.map_eq_none_iff.1 h]
    rfl
  | _ => rfl

end Json

end FieldRules
