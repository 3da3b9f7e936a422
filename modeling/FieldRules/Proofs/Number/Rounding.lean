import FieldRules.Json.Basic
import FieldRules.Number.Decimal
import FieldRules.Proofs.Number.Nearest
import Mathlib

/-!
# Rounding to the nearest number

`Binary64.ofRatio?` gives the number nearest to a quotient that is not too large
(`exists_ofRatio?_eq`): its scale is the one on which the quotient has 53 binary digits
(`lt_two_pow_scaleOf`, `two_pow_scaleOf_le`), there `roundQuotient` gives the nearest multiple
(`roundQuotient_dist`), and the numbers of smaller scales are farther away.  So `ofInt?` and
`ofDecimal?` give the numbers nearest to integers and to decimals
(`isNearest_of_ofDecimal?_eq_some`).
-/

set_option autoImplicit false

namespace FieldRules

namespace Binary64

/-! ## The nearest multiple -/

section Multiple

variable {n d : ℕ}

/-- A quotient is rounded down where the rest is no more than a half, or else up, and to an even
number where it is a half. -/
theorem roundQuotient_cases (n d : ℕ) :
    (roundQuotient n d = n / d ∧ 2 * (n % d) ≤ d ∧ (2 * (n % d) = d → Even (n / d))) ∨
      (roundQuotient n d = n / d + 1 ∧ d ≤ 2 * (n % d) ∧ (2 * (n % d) = d → Even (n / d + 1))) := by
  unfold roundQuotient
  dsimp only
  simp only [Nat.even_iff]
  split <;> omega

/-- A multiple is at least one step below another one or above it. -/
theorem mul_le_or_le_mul {i j : ℤ} (h : j ≠ i) : j * d + d ≤ i * d ∨ i * d + d ≤ j * d := by
  rcases lt_or_gt_of_ne h with h | h
  · left
    nlinarith
  · right
    nlinarith

/-- No multiple is nearer than the one that `roundQuotient` gives, and none is as near if that is an
odd one. -/
theorem roundQuotient_dist (hd : 0 < d) {j : ℤ} (hne : j ≠ roundQuotient n d) :
    |(roundQuotient n d : ℤ) * d - n| ≤ |j * d - n| ∧
      (|j * d - n| = |(roundQuotient n d : ℤ) * d - n| → Even (roundQuotient n d)) := by
  have hn : ((n / d : ℕ) : ℤ) * d + (n % d : ℕ) = n := by exact_mod_cast Nat.div_add_mod' n d
  have hr := Nat.mod_lt n hd
  have hside := mul_le_or_le_mul (d := d) hne
  have hcases := roundQuotient_cases n d
  rw [Int.abs_eq_natAbs, Int.abs_eq_natAbs]
  simp only [Nat.even_iff] at hcases ⊢
  -- From here on only that the remainder is smaller than the divisor counts.
  generalize n / d = q at hn hcases
  generalize n % d = r at hn hr hcases
  rcases hcases with ⟨hq, hhalf, heven⟩ | ⟨hq, hhalf, heven⟩
  · rw [hq] at hside ⊢
    omega
  · rw [hq, Nat.cast_add, Nat.cast_one, add_mul, one_mul] at hside ⊢
    omega

/-- A rounded quotient is not below the quotient rounded down. -/
theorem div_le_roundQuotient (n d : ℕ) : n / d ≤ roundQuotient n d := by
  rcases roundQuotient_cases n d with ⟨hq, -⟩ | ⟨hq, -⟩ <;> omega

/-- A rounded quotient is at most one above the quotient rounded down. -/
theorem roundQuotient_le (n d : ℕ) : roundQuotient n d ≤ n / d + 1 := by
  rcases roundQuotient_cases n d with ⟨hq, -⟩ | ⟨hq, -⟩ <;> omega

/-- A quotient without a rest stays as it is. -/
theorem roundQuotient_of_dvd (hd : 0 < d) (h : d ∣ n) : roundQuotient n d = n / d := by
  rcases roundQuotient_cases n d with ⟨hq, -⟩ | ⟨-, hhalf, -⟩
  · exact hq
  · rw [Nat.mod_eq_zero_of_dvd h] at hhalf
    omega

end Multiple

/-! ## The scale -/

/-- The scale on which a number of units has at most 53 binary digits. -/
def scaleOf (a : ℕ) : ℕ :=
  a.log2 + 1 - 53

/-- A magnitude fits a significand at its scale. -/
theorem lt_two_pow_scaleOf (a : ℕ) : a < 2 ^ 53 * 2 ^ scaleOf a := by
  have hlog : a < 2 ^ (a.log2 + 1) := Nat.lt_log2_self
  refine hlog.trans_le ?_
  rw [← pow_add]
  unfold scaleOf
  exact Nat.pow_le_pow_right (by decide) (by omega)

/-- Above the least scale a number of units has all the 53 binary digits. -/
theorem two_pow_scaleOf_le {a : ℕ} (h : 0 < scaleOf a) : 2 ^ 52 * 2 ^ scaleOf a ≤ a := by
  have hlog : 53 ≤ a.log2 := by
    unfold scaleOf at h
    omega
  have hne : a ≠ 0 := by
    rintro rfl
    simp at hlog
  have hexponent : 52 + scaleOf a = a.log2 := by
    unfold scaleOf
    omega
  rw [← pow_add, hexponent]
  exact Nat.log2_self_le hne

/-- A magnitude that fits a significand at some scale has no greater one. -/
theorem scaleOf_le {a m : ℕ} (h : a < 2 ^ (53 + m)) : scaleOf a ≤ m := by
  by_contra hgt
  rw [not_le] at hgt
  have hle := two_pow_scaleOf_le (Nat.zero_lt_of_lt hgt)
  have hpow : 2 ^ (53 + m) ≤ 2 ^ 52 * 2 ^ scaleOf a := by
    rw [← pow_add]
    exact Nat.pow_le_pow_right (by decide) (by omega)
  omega

/-! ## Rounding a quotient -/

/-- A number is a multiple of what a scale counts unless its own scale is smaller; then it is
small. -/
theorem exists_units_eq_or_lt (y : Binary64) (k : ℕ) :
    (∃ j : ℤ, y.units = j * 2 ^ k) ∨ 0 < k ∧ y.units < 2 ^ 52 * 2 ^ k := by
  -- A number of a smaller scale has a significand of 53 binary digits at most, so it is small.
  rcases le_or_gt k y.scale with hk | hk
  · left
    obtain ⟨s, -, hs⟩ := exists_magnitude_eq hk
    refine ⟨if y.negative then -s else s, ?_⟩
    unfold units
    rw [hs]
    split <;> push_cast <;> ring
  · right
    refine ⟨by omega, ?_⟩
    have hlt := y.significand_lt
    rw [Nat.one_shiftLeft] at hlt
    have hscale : 2 * 2 ^ y.scale ≤ 2 ^ k := by
      rw [← pow_succ']
      exact Nat.pow_le_pow_right (by decide) hk
    have hmagnitude : y.magnitude < 2 ^ 52 * 2 ^ k := by
      rw [magnitude_eq]
      calc y.significand * 2 ^ y.scale
        _ < 2 ^ 53 * 2 ^ y.scale := Nat.mul_lt_mul_of_pos_right hlt (Nat.two_pow_pos _)
        _ = 2 ^ 52 * (2 * 2 ^ y.scale) := by ring
        _ ≤ 2 ^ 52 * 2 ^ k := Nat.mul_le_mul_left _ hscale
    zify at hmagnitude
    unfold units
    split <;> omega

section Quotient

variable {n d : ℕ}

/-- How far a number is from a quotient, counted in units divided by the divisor. -/
theorem abs_value_sub (hd : 0 < d) (y : Binary64) :
    |y.value - n / d| = ((|y.units * d - (n * unitCount : ℕ)| : ℤ) : ℚ) / (unitCount * d) := by
  have hunit := cast_unitCount_pos
  have hd : (0 : ℚ) < d := by exact_mod_cast hd
  rw [value, div_sub_div _ _ hunit.ne' hd.ne', abs_div, abs_of_pos (mul_pos hunit hd)]
  push_cast
  rw [mul_comm (unitCount : ℚ) (n : ℚ)]

/-- A number is nearest to a quotient if no number of other value is nearer, or as near if its own
significand is odd. -/
theorem isNearest_of_units (hd : 0 < d) {x : Binary64}
    (h : ∀ y : Binary64, y.units ≠ x.units →
      |x.units * d - (n * unitCount : ℕ)| ≤ |y.units * d - (n * unitCount : ℕ)| ∧
        (|y.units * d - (n * unitCount : ℕ)| = |x.units * d - (n * unitCount : ℕ)| →
          Even x.significand)) :
    x.IsNearest (n / d) := by
  have hscale : (0 : ℚ) < unitCount * d := by
    have hd : (0 : ℚ) < d := by exact_mod_cast hd
    exact mul_pos cast_unitCount_pos hd
  constructor
  · intro y
    by_cases hy : y.units = x.units
    · rw [abs_value_sub hd, abs_value_sub hd, hy]
    · rw [abs_value_sub hd, abs_value_sub hd, div_le_div_iff_of_pos_right hscale, Int.cast_le]
      exact (h y hy).1
  · intro y htie hne
    rw [ne_eq, value_eq_value_iff] at hne
    rw [abs_value_sub hd, abs_value_sub hd, div_left_inj' hscale.ne', Int.cast_inj] at htie
    exact (h y hne).2 htie

/-- The least number with 53 binary digits on the scale of a quotient is no greater than it. -/
theorem two_pow_mul_le {m : ℕ} (h : 0 < scaleOf (m / d)) :
    2 ^ 52 * (d * 2 ^ scaleOf (m / d)) ≤ m :=
  calc 2 ^ 52 * (d * 2 ^ scaleOf (m / d))
    _ = 2 ^ 52 * 2 ^ scaleOf (m / d) * d := by ring
    _ ≤ m / d * d := Nat.mul_le_mul_right d (two_pow_scaleOf_le h)
    _ ≤ m := Nat.div_mul_le_self _ _

/-- The rounded quotient on its scale is nearest: no multiple of what the scale counts is nearer,
and what is no multiple is smaller than the least number with all the 53 binary digits. -/
theorem isNearest_of_magnitude_eq (hd : 0 < d) {x : Binary64} (hx : x.negative = false) {k s : ℕ}
    (hk : k = scaleOf (n * unitCount / d)) (hs : s = roundQuotient (n * unitCount) (d * 2 ^ k))
    (hmagnitude : x.magnitude = s * 2 ^ k) (heven : Even s → Even x.significand) :
    x.IsNearest (n / d) := by
  have hround {j : ℤ} (hj : j ≠ s) :
      |(s : ℤ) * (d * 2 ^ k : ℕ) - (n * unitCount : ℕ)| ≤
          |j * (d * 2 ^ k : ℕ) - (n * unitCount : ℕ)| ∧
        (|j * (d * 2 ^ k : ℕ) - (n * unitCount : ℕ)| =
          |(s : ℤ) * (d * 2 ^ k : ℕ) - (n * unitCount : ℕ)| → Even s) := by
    subst hs
    exact roundQuotient_dist (Nat.mul_pos hd (Nat.two_pow_pos k)) hj
  have hunits : x.units = s * 2 ^ k := by
    rw [units_of_not_negative hx, hmagnitude]
    push_cast
    rfl
  have hmul (j : ℤ) : j * 2 ^ k * d = j * (d * 2 ^ k : ℕ) := by
    push_cast
    ring
  refine isNearest_of_units hd fun y hne => ?_
  rw [hunits] at hne ⊢
  rw [hmul]
  -- Rounding compares the multiples of the scale; any other number is too small to be nearer.
  rcases exists_units_eq_or_lt y k with ⟨j, hj⟩ | ⟨hpos, hlt⟩
  · rw [hj] at hne ⊢
    rw [hmul]
    have hj : j ≠ s := by
      rintro rfl
      exact hne rfl
    obtain ⟨hle, htie⟩ := hround hj
    exact ⟨hle, fun h => heven (htie h)⟩
  · have hleast : 2 ^ 52 * (d * 2 ^ k) ≤ n * unitCount := by
      rw [hk] at hpos ⊢
      exact two_pow_mul_le hpos
    have hbelow : y.units * d < 2 ^ 52 * (d * 2 ^ k : ℕ) := by
      rw [← hmul]
      exact mul_lt_mul_of_pos_right hlt (by exact_mod_cast hd)
    have hnear : |(s : ℤ) * (d * 2 ^ k : ℕ) - (n * unitCount : ℕ)| ≤
        |2 ^ 52 * ((d * 2 ^ k : ℕ) : ℤ) - (n * unitCount : ℕ)| := by
      by_cases hj : (2 ^ 52 : ℤ) = s
      · rw [hj]
      · exact (hround hj).1
    rw [Int.abs_eq_natAbs, Int.abs_eq_natAbs] at hnear ⊢
    generalize d * 2 ^ k = step at *
    generalize n * unitCount = m at *
    omega

/-- On its scale a quotient is rounded to at most 53 binary digits, or to one more than those
hold. -/
theorem roundQuotient_scaleOf_le (m d : ℕ) :
    roundQuotient m (d * 2 ^ scaleOf (m / d)) ≤ 2 ^ 53 := by
  have hlt : m / (d * 2 ^ scaleOf (m / d)) < 2 ^ 53 := by
    rw [← Nat.div_div_eq_div_mul, Nat.div_lt_iff_lt_mul (Nat.two_pow_pos _)]
    exact lt_two_pow_scaleOf _
  exact (roundQuotient_le _ _).trans hlt

/-- Above the least scale a quotient is rounded to no fewer than 53 binary digits. -/
theorem le_roundQuotient_scaleOf {m d : ℕ} (h : 0 < scaleOf (m / d)) :
    2 ^ 52 ≤ roundQuotient m (d * 2 ^ scaleOf (m / d)) := by
  refine le_trans ?_ (div_le_roundQuotient _ _)
  rw [← Nat.div_div_eq_div_mul, Nat.le_div_iff_mul_le (Nat.two_pow_pos _)]
  exact two_pow_scaleOf_le h

/-- A quotient is rounded on its scale.  Where that carries into a 54th digit, the number stands on
the next scale. -/
theorem ofRatio?_eq (negative : Bool) {k s : ℕ} (hk : k = scaleOf (n * unitCount / d))
    (hs : s = roundQuotient (n * unitCount) (d * 2 ^ k)) :
    ofRatio? negative n d =
      if s = 2 ^ 53 then ofFields? negative (2 ^ 52) (k + 1) else ofFields? negative s k := by
  have hunits : n <<< 1074 = n * unitCount := by
    rw [unitCount, Nat.shiftLeft_eq, Nat.one_shiftLeft]
  rw [hs, hk, scaleOf, ← hunits, ← Nat.shiftLeft_eq]
  rfl

/-- A number that a quotient is rounded to has the rounded magnitude, and an even significand if the
rounded quotient is even. -/
theorem of_ofRatio?_eq_some {negative : Bool} {k s : ℕ} (hk : k = scaleOf (n * unitCount / d))
    (hs : s = roundQuotient (n * unitCount) (d * 2 ^ k)) {x : Binary64}
    (h : ofRatio? negative n d = some x) :
    x.negative = negative ∧ x.magnitude = s * 2 ^ k ∧ (Even s → Even x.significand) := by
  rw [ofRatio?_eq negative hk hs] at h
  split_ifs at h with hcarry
  · obtain ⟨hnegative, hsignificand, hmagnitude⟩ := of_ofFields?_eq_some h
    refine ⟨hnegative, ?_, fun _ => ?_⟩
    · rw [hmagnitude, hcarry]
      ring
    · rw [hsignificand]
      decide
  · obtain ⟨hnegative, hsignificand, hmagnitude⟩ := of_ofFields?_eq_some h
    exact ⟨hnegative, hmagnitude, fun heven => hsignificand ▸ heven⟩

/-- A quotient is rounded to a number if its scale is not too large. -/
theorem exists_ofRatio?_eq_of_scaleOf_le (negative : Bool)
    (hbound : scaleOf (n * unitCount / d) ≤ 2044) :
    ∃ x : Binary64, ofRatio? negative n d = some x := by
  have hle := roundQuotient_scaleOf_le (n * unitCount) d
  have hnormal : scaleOf (n * unitCount / d) = 0 ∨
      2 ^ 52 ≤ roundQuotient (n * unitCount) (d * 2 ^ scaleOf (n * unitCount / d)) :=
    (Nat.eq_zero_or_pos _).imp_right le_roundQuotient_scaleOf
  rw [ofRatio?_eq negative rfl rfl]
  split_ifs with hcarry
  · obtain ⟨x, hx, -⟩ :=
      exists_ofFields?_eq negative (s := 2 ^ 52) (k := scaleOf (n * unitCount / d) + 1)
        (by decide) (by omega) (Or.inr le_rfl)
    exact ⟨x, hx⟩
  · obtain ⟨x, hx, -⟩ :=
      exists_ofFields?_eq negative (lt_of_le_of_ne hle hcarry) (by omega) hnormal
    exact ⟨x, hx⟩

/-- A rational with a sign before it. -/
def signed (negative : Bool) (q : ℚ) : ℚ :=
  if negative then -q else q

/-- A number that a quotient is rounded to is nearest to it. -/
theorem isNearest_of_ofRatio?_eq_some {negative : Bool} (hd : 0 < d) {x : Binary64}
    (h : ofRatio? negative n d = some x) : x.IsNearest (signed negative (n / d)) := by
  obtain ⟨hnegative, hmagnitude, heven⟩ := of_ofRatio?_eq_some rfl rfl h
  rw [signed]
  cases negative with
  | false => exact isNearest_of_magnitude_eq hd hnegative rfl rfl hmagnitude heven
  | true =>
    have hneg : x.neg.negative = false := congrArg not hnegative
    have hnearest := (isNearest_of_magnitude_eq hd hneg rfl rfl hmagnitude heven).neg
    rw [neg_involutive] at hnearest
    exact hnearest

/-- **Rounding.**  A quotient that is not too large is rounded to the number nearest to it. -/
theorem exists_ofRatio?_eq (negative : Bool) (hd : 0 < d) (hn : n < 2 ^ 1023 * d) :
    ∃ x : Binary64, ofRatio? negative n d = some x ∧ x.IsNearest (signed negative (n / d)) := by
  have hscale : scaleOf (n * unitCount / d) ≤ 2044 := by
    have hexponent : 53 + 2044 = 1023 + 1074 := rfl
    have hbound : 2 ^ (53 + 2044) = 2 ^ 1023 * unitCount := by
      rw [unitCount_eq, hexponent, pow_add]
    refine scaleOf_le ?_
    rw [Nat.div_lt_iff_lt_mul hd, hbound, mul_right_comm]
    exact Nat.mul_lt_mul_of_pos_right hn unitCount_pos
  obtain ⟨x, hx⟩ := exists_ofRatio?_eq_of_scaleOf_le negative hscale
  exact ⟨x, hx, isNearest_of_ofRatio?_eq_some hd hx⟩

end Quotient

/-! ## Integers and decimals -/

/-- An integer is its absolute value with its sign. -/
theorem ite_neg_abs (n : ℤ) : (if decide (n < 0) = true then -|n| else |n|) = n := by
  rcases lt_or_ge n 0 with hneg | hpos
  · rw [if_pos (decide_eq_true hneg), abs_of_neg hneg, neg_neg]
  · rw [if_neg (by simpa using hpos), abs_of_nonneg hpos]

/-- An integer that is not too large is rounded to the number nearest to it. -/
theorem exists_ofInt?_eq {n : ℤ} (hn : n.natAbs < 2 ^ 1023) :
    ∃ x : Binary64, ofInt? n = some x ∧ x.IsNearest n := by
  obtain ⟨x, hx, hnearest⟩ :=
    exists_ofRatio?_eq (decide (n < 0)) Nat.one_pos (show n.natAbs < 2 ^ 1023 * 1 by rwa [mul_one])
  have hvalue : signed (decide (n < 0)) (n.natAbs / (1 : ℕ)) = n := by
    rw [Nat.cast_one, div_one, Nat.cast_natAbs, signed]
    exact_mod_cast ite_neg_abs n
  rw [hvalue] at hnearest
  exact ⟨x, hx, hnearest⟩

/-- An integer of at most 53 binary digits is a number. -/
theorem exists_value_eq {n : ℤ} (hn : n.natAbs < 2 ^ 53) : ∃ x : Binary64, x.value = n := by
  have hscale : scaleOf (n.natAbs * unitCount / 1) ≤ 1074 := by
    refine scaleOf_le ?_
    rw [Nat.div_one, pow_add, ← unitCount_eq]
    exact Nat.mul_lt_mul_of_pos_right hn unitCount_pos
  obtain ⟨x, hx⟩ :=
    exists_ofRatio?_eq_of_scaleOf_le (decide (n < 0)) (hscale.trans (by decide))
  obtain ⟨hnegative, hmagnitude, -⟩ := of_ofRatio?_eq_some rfl rfl hx
  -- The scale counts a divisor of the units in one, so that nothing is rounded.
  have hunit {k : ℕ} (hk : k ≤ 1074) : 2 ^ k ∣ n.natAbs * unitCount := by
    rw [unitCount_eq]
    exact (pow_dvd_pow 2 hk).mul_left _
  have hdvd := hunit hscale
  rw [one_mul, roundQuotient_of_dvd (Nat.two_pow_pos _) hdvd, Nat.div_mul_cancel hdvd]
    at hmagnitude
  have hunits : x.units = n * unitCount := by
    unfold units
    rw [hnegative, hmagnitude, Nat.cast_mul, Nat.cast_natAbs, Int.cast_id, ← neg_mul, ← ite_mul,
      ite_neg_abs]
  refine ⟨x, ?_⟩
  rw [value, hunits, Int.cast_mul, Int.cast_natCast, mul_div_cancel_right₀ _ cast_unitCount_pos.ne']

/-- Integers of at most 53 binary digits are told apart. -/
theorem Indistinct.eq_of_natAbs_lt {m n : ℤ} (h : Indistinct m n) (hm : m.natAbs < 2 ^ 53)
    (hn : n.natAbs < 2 ^ 53) : m = n := by
  obtain ⟨x, y, hx, hy, heq⟩ := h
  obtain ⟨x', hx'⟩ := exists_value_eq hm
  obtain ⟨y', hy'⟩ := exists_value_eq hn
  have hxm : x.value = m := (hx.value_eq (isNearest_of_value_eq hx')).trans hx'
  have hyn : y.value = n := (hy.value_eq (isNearest_of_value_eq hy')).trans hy'
  rw [hxm, hyn] at heq
  exact_mod_cast heq

end Binary64

/-- The integers of words are not too large to be rounded. -/
theorem WordInt.natAbs_lt (n : WordInt) : n.val.natAbs < 2 ^ 1023 := by
  have hge := n.ge
  have hlt := n.lt
  rw [Nat.one_shiftLeft] at hge hlt
  refine lt_of_le_of_lt (b := 2 ^ 64) (by omega) ?_
  exact pow_lt_pow_right₀ (by decide) (by decide)

namespace Decimal

/-- The value of a decimal. -/
def value (d : Decimal) : ℚ :=
  d.digits * 10 ^ d.exponent

/-- A decimal is not negative. -/
theorem value_nonneg (d : Decimal) : 0 ≤ d.value := by
  unfold value
  positivity

/-- The place that a decimal stays below. -/
theorem value_lt_zpow (d : Decimal) : d.value < 10 ^ (d.exponent + digitCount d.digits) := by
  have hlt : d.digits < 10 ^ digitCount d.digits :=
    (Nat.length_toDigits_le_iff (by decide) Nat.length_toDigits_pos).1 le_rfl
  rw [zpow_add₀ (by norm_num), zpow_natCast, mul_comm, value]
  exact mul_lt_mul_of_pos_right (by exact_mod_cast hlt) (by positivity)

/-- The place that a decimal reaches. -/
theorem zpow_le_value {d : Decimal} (h : d.digits ≠ 0) :
    10 ^ (d.exponent + digitCount d.digits - 1) ≤ d.value := by
  have hpos : 0 < digitCount d.digits := Nat.length_toDigits_pos
  have hle : 10 ^ (digitCount d.digits - 1) ≤ d.digits := by
    rcases Nat.eq_zero_or_pos (digitCount d.digits - 1) with hzero | hpos
    · rw [hzero, pow_zero]
      omega
    · by_contra hlt
      rw [not_le, ← Nat.length_toDigits_le_iff (by decide) hpos] at hlt
      have hcount : (Nat.toDigits 10 d.digits).length = digitCount d.digits := rfl
      omega
  have hplace : d.exponent + digitCount d.digits - 1 =
      d.exponent + (digitCount d.digits - 1 : ℕ) := by omega
  rw [hplace, zpow_add₀ (by norm_num), zpow_natCast, mul_comm, value]
  exact mul_le_mul_of_nonneg_right (by exact_mod_cast hle) (by positivity)

/-- With an exponent that is not negative a decimal is an integer. -/
theorem value_eq_of_exponent_eq {d : Decimal} {m : ℕ} (h : d.exponent = m) :
    d.value = (d.digits * 10 ^ m : ℕ) / (1 : ℕ) := by
  unfold value
  rw [h, zpow_natCast]
  push_cast
  ring

/-- With a negative exponent a decimal is a quotient. -/
theorem value_eq_of_neg_exponent_eq {d : Decimal} {m : ℕ} (h : -d.exponent = m) :
    d.value = d.digits / (10 ^ m : ℕ) := by
  unfold value
  rw [← neg_neg d.exponent, h, zpow_neg, zpow_natCast, div_eq_mul_inv]
  push_cast
  rfl

end Decimal

namespace Binary64

/-- The sign of a rational does not change its distance from zero. -/
theorem abs_signed (negative : Bool) {q : ℚ} (h : 0 ≤ q) : |signed negative q| = q := by
  unfold signed
  split
  · rw [abs_neg, abs_of_nonneg h]
  · exact abs_of_nonneg h

/-- Zero is nearest to what is less than half a unit. -/
theorem isNearest_of_units_eq_zero {x : Binary64} (hx : x.units = 0) {q : ℚ}
    (hq : 2 * |q| * unitCount < 1) : x.IsNearest q := by
  have hvalue : x.value = 0 := by rw [value, hx, Int.cast_zero, zero_div]
  have hfar {y : Binary64} (hy : y.units ≠ 0) : |q| < |y.value - q| := by
    have hone : (1 : ℚ) ≤ |(y.units : ℚ)| := by exact_mod_cast Int.one_le_abs hy
    have hunit : 1 ≤ |y.value| * unitCount := by
      rwa [value, abs_div, abs_of_pos cast_unitCount_pos, div_mul_cancel₀ _ cast_unitCount_pos.ne']
    have hlt : 2 * |q| < |y.value| :=
      lt_of_mul_lt_mul_right (hq.trans_le hunit) cast_unitCount_pos.le
    have htriangle := abs_sub_abs_le_abs_sub y.value q
    linarith
  have hzero : |x.value - q| = |q| := by rw [hvalue, zero_sub, abs_neg]
  constructor
  · intro y
    by_cases hy : y.units = 0
    · rw [(value_eq_value_iff x y).2 (hx.trans hy.symm)]
    · rw [hzero]
      exact (hfar hy).le
  · intro y htie hne
    rw [ne_eq, value_eq_value_iff, hx] at hne
    rw [hzero] at htie
    exact absurd htie (hfar hne).ne'

/-- Half a unit is no smaller than the place below which decimals are read as zero. -/
theorem two_mul_unitCount_le : 2 * (unitCount : ℚ) ≤ 10 ^ (400 : ℤ) := by
  rw [unitCount_eq, Nat.cast_pow, Nat.cast_ofNat, ← pow_succ']
  calc (2 ^ 1075 : ℚ)
    _ ≤ 2 ^ (3 * 400) := pow_le_pow_right₀ (by norm_num) (by norm_num)
    _ = (2 ^ 3) ^ 400 := pow_mul 2 3 400
    _ ≤ 10 ^ 400 := pow_le_pow_left₀ (by norm_num) (by norm_num) 400

/-- A decimal that is zero or very small is below half a unit. -/
theorem two_mul_value_mul_unitCount_lt {d : Decimal}
    (h : d.digits = 0 ∨ d.exponent + Decimal.digitCount d.digits < -400) :
    2 * d.value * unitCount < 1 := by
  rcases h with hzero | hplaces
  · rw [Decimal.value, hzero]
    norm_num
  · have hvalue : d.value < 10 ^ (-400 : ℤ) :=
      d.value_lt_zpow.trans_le (zpow_le_zpow_right₀ (by norm_num) hplaces.le)
    calc 2 * d.value * unitCount
      _ = d.value * (2 * unitCount) := by ring
      _ < 10 ^ (-400 : ℤ) * (2 * unitCount) :=
        mul_lt_mul_of_pos_right hvalue (mul_pos two_pos cast_unitCount_pos)
      _ ≤ 10 ^ (-400 : ℤ) * 10 ^ (400 : ℤ) :=
        mul_le_mul_of_nonneg_left two_mul_unitCount_le (by positivity)
      _ = 1 := by rw [← zpow_add₀ (by norm_num), neg_add_cancel, zpow_zero]

/-- A decimal that reaches the place above which decimals are not read is too large. -/
theorem two_mul_unitCount_le_value {d : Decimal} (hne : d.digits ≠ 0)
    (hplaces : 400 < d.exponent + Decimal.digitCount d.digits) : 2 * unitCount ≤ d.value := by
  have hpow : (10 ^ (400 : ℤ) : ℚ) ≤ 10 ^ (d.exponent + Decimal.digitCount d.digits - 1) :=
    zpow_le_zpow_right₀ (by norm_num) (by omega)
  exact two_mul_unitCount_le.trans (hpow.trans (Decimal.zpow_le_value hne))

/-- **Reading decimals.**  A number that a decimal is read as is nearest to it, and has its sign. -/
theorem isNearest_of_ofDecimal?_eq_some {negative : Bool} {d : Decimal} {x : Binary64}
    (h : ofDecimal? negative d = some x) :
    x.IsNearest (signed negative d.value) ∧ x.negative = negative := by
  have hratio {n m : ℕ} (hm : 0 < m) (h : ofRatio? negative n m = some x) :
      x.IsNearest (signed negative (n / m)) ∧ x.negative = negative :=
    ⟨isNearest_of_ofRatio?_eq_some hm h, (of_ofRatio?_eq_some rfl rfl h).1⟩
  rw [ofDecimal?] at h
  split_ifs at h with hsmall hlarge hexponent
  · obtain ⟨hnegative, -, hmagnitude⟩ := of_ofFields?_eq_some h
    have hunits : x.units = 0 := by
      unfold units
      rw [hmagnitude]
      split <;> rfl
    refine ⟨isNearest_of_units_eq_zero hunits ?_, hnegative⟩
    rw [abs_signed negative d.value_nonneg]
    exact two_mul_value_mul_unitCount_lt hsmall
  · obtain ⟨m, hm⟩ := Int.eq_ofNat_of_zero_le hexponent
    rw [hm, Int.toNat_natCast] at h
    rw [Decimal.value_eq_of_exponent_eq hm]
    exact hratio Nat.one_pos h
  · obtain ⟨m, hm⟩ := Int.eq_ofNat_of_zero_le (show 0 ≤ -d.exponent by omega)
    rw [hm, Int.toNat_natCast] at h
    rw [Decimal.value_eq_of_neg_exponent_eq hm]
    exact hratio (Nat.pow_pos (show 0 < 10 by decide)) h

end Binary64

end FieldRules
