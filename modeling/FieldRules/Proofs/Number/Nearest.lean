import FieldRules.Number.Binary64
import Mathlib

/-!
# The nearest number

`Binary64.IsNearest` says that a number is the one nearest to a rational, the one with an even
significand if two are as near.  A greater rational has no smaller number nearest to it
(`IsNearest.value_mono`), and no two numbers of different value are nearest to one rational
(`IsNearest.value_eq`), since another number lies between any two with even significands.
-/

set_option autoImplicit false

namespace FieldRules.Binary64

/-! ## Values -/

/-- How many units make up one. -/
def unitCount : ℕ :=
  1 <<< 1074

/-- The value of a number. -/
def value (x : Binary64) : ℚ :=
  x.units / (unitCount : ℚ)

/-- Whether a number is the one nearest to a rational, with an even significand if another one is as
near. -/
structure IsNearest (x : Binary64) (q : ℚ) : Prop where
  dist_le (y : Binary64) : |x.value - q| ≤ |y.value - q|
  even_of_tie (y : Binary64) (htie : |y.value - q| = |x.value - q|) (hne : y.value ≠ x.value) :
    Even x.significand

/-- How many units make up one, as a power of two. -/
theorem unitCount_eq : unitCount = 2 ^ 1074 := by
  have hshift (n : ℕ) : 1 <<< n = 2 ^ n := Nat.one_shiftLeft n
  rw [unitCount, hshift]

/-- Some units make up one. -/
theorem unitCount_pos : 0 < unitCount := by
  rw [unitCount_eq]
  positivity

/-- Some units make up one, as a rational. -/
theorem cast_unitCount_pos : (0 : ℚ) < (unitCount : ℚ) := by
  exact_mod_cast unitCount_pos

/-- Numbers are ordered as their units are. -/
theorem value_lt_value_iff (x y : Binary64) : x.value < y.value ↔ x.units < y.units := by
  unfold value
  rw [div_lt_div_iff_of_pos_right cast_unitCount_pos, Int.cast_lt]

/-- Numbers are equal exactly if their units are. -/
theorem value_eq_value_iff (x y : Binary64) : x.value = y.value ↔ x.units = y.units := by
  unfold value
  rw [div_left_inj' cast_unitCount_pos.ne', Int.cast_inj]

/-- The magnitude is the significand, shifted by the scale. -/
theorem magnitude_eq (x : Binary64) : x.magnitude = x.significand * 2 ^ x.scale :=
  Nat.shiftLeft_eq _ _

/-- Fields within the bounds make a number. -/
theorem exists_ofFields?_eq (negative : Bool) {s k : ℕ} (hs : s < 2 ^ 53) (hk : k ≤ 2045)
    (h : k = 0 ∨ 2 ^ 52 ≤ s) :
    ∃ x : Binary64, ofFields? negative s k = some x ∧ x.negative = negative ∧ x.significand = s ∧
      x.magnitude = s * 2 ^ k := by
  rw [← Nat.one_shiftLeft] at hs h
  exact ⟨⟨negative, s, k, hs, hk, h⟩, dif_pos ⟨hs, hk, h⟩, rfl, rfl, magnitude_eq _⟩

/-- A number that fields make has these fields. -/
theorem of_ofFields?_eq_some {negative : Bool} {s k : ℕ} {x : Binary64}
    (h : ofFields? negative s k = some x) :
    x.negative = negative ∧ x.significand = s ∧ x.magnitude = s * 2 ^ k := by
  unfold ofFields? at h
  split at h
  · obtain rfl := Option.some.inj h
    exact ⟨rfl, rfl, magnitude_eq _⟩
  · cases h

/-- A negative number has its magnitude below zero. -/
theorem units_of_negative {x : Binary64} (h : x.negative = true) : x.units = -x.magnitude := by
  unfold units
  rw [if_pos h]

/-- Any other number has its magnitude. -/
theorem units_of_not_negative {x : Binary64} (h : x.negative = false) :
    x.units = x.magnitude := by
  unfold units
  rw [h, if_neg Bool.false_ne_true]

/-- Changing the sign changes the sign of the units. -/
@[simp] theorem units_neg (x : Binary64) : x.neg.units = -x.units := by
  have hmagnitude : x.neg.magnitude = x.magnitude := rfl
  have hnegative : x.neg.negative = !x.negative := rfl
  unfold units
  rw [hmagnitude, hnegative]
  cases x.negative <;> simp

/-- Changing the sign twice changes nothing. -/
theorem neg_involutive (x : Binary64) : x.neg.neg = x := by
  rw [neg, neg, Bool.not_not]

/-- Changing the sign changes the sign of the value. -/
@[simp] theorem value_neg (x : Binary64) : x.neg.value = -x.value := by
  unfold value
  rw [units_neg, Int.cast_neg, neg_div]

/-- Changing signs keeps what is nearest. -/
theorem IsNearest.neg {x : Binary64} {q : ℚ} (h : x.IsNearest q) : x.neg.IsNearest (-q) := by
  have hdist (y : Binary64) : |y.value - -q| = |y.neg.value - q| := by
    rw [value_neg, ← abs_neg]
    congr 1
    ring
  constructor
  · intro y
    rw [hdist, hdist, neg_involutive]
    exact h.dist_le y.neg
  · intro y htie hne
    rw [hdist, hdist, neg_involutive] at htie
    refine h.even_of_tie y.neg htie ?_
    rw [value_neg, ne_eq, neg_eq_iff_eq_neg, ← value_neg]
    exact hne

/-- A number is the one nearest to its own value. -/
theorem isNearest_of_value_eq {x : Binary64} {q : ℚ} (h : x.value = q) : x.IsNearest q := by
  subst h
  constructor
  · intro y
    rw [sub_self, abs_zero]
    exact abs_nonneg _
  · intro y htie hne
    rw [sub_self, abs_zero, abs_eq_zero, sub_eq_zero] at htie
    exact absurd htie hne

/-! ## Rounding keeps the order -/

/-- The middle of two rationals is no greater than what the greater one is nearer to. -/
theorem add_le_two_mul {a b q : ℚ} (hlt : b < a) (h : |a - q| ≤ |b - q|) : a + b ≤ 2 * q := by
  rcases abs_cases (a - q) with ⟨ha, hle⟩ | ⟨ha, hle⟩ <;>
    rcases abs_cases (b - q) with ⟨hb, hle'⟩ | ⟨hb, hle'⟩ <;> linarith

/-- The middle of two rationals is no smaller than what the smaller one is nearer to. -/
theorem two_mul_le_add {a b q : ℚ} (hlt : b < a) (h : |b - q| ≤ |a - q|) : 2 * q ≤ a + b := by
  rcases abs_cases (a - q) with ⟨ha, hle⟩ | ⟨ha, hle⟩ <;>
    rcases abs_cases (b - q) with ⟨hb, hle'⟩ | ⟨hb, hle'⟩ <;> linarith

/-- A greater rational has no smaller number nearest to it. -/
theorem IsNearest.value_mono {x y : Binary64} {q r : ℚ} (hx : x.IsNearest q) (hy : y.IsNearest r)
    (hlt : q < r) : x.value ≤ y.value := by
  by_contra hgt
  rw [not_le] at hgt
  have hq : x.value + y.value ≤ 2 * q := add_le_two_mul hgt (hx.dist_le y)
  have hr : 2 * r ≤ x.value + y.value := two_mul_le_add hgt (hy.dist_le x)
  linarith

/-! ## Between two numbers -/

/-- A number whose scale is no smaller than some scale is a multiple of what that counts, an even
one if the significand is even. -/
theorem exists_magnitude_eq {x : Binary64} {k : ℕ} (hk : k ≤ x.scale) :
    ∃ s, (Even x.significand → Even s) ∧ x.magnitude = s * 2 ^ k := by
  refine ⟨x.significand * 2 ^ (x.scale - k), fun heven => heven.mul_right _, ?_⟩
  rw [magnitude_eq, mul_assoc, ← pow_add, Nat.sub_add_cancel hk]

/-- A number with an even significand and at most some scale is small. -/
theorem magnitude_le_of_even {x : Binary64} (heven : Even x.significand) {k : ℕ}
    (hk : x.scale ≤ k) : x.magnitude ≤ (2 ^ 53 - 2) * 2 ^ k := by
  obtain ⟨s, hs⟩ := heven
  have hlt := x.significand_lt
  rw [Nat.one_shiftLeft] at hlt
  rw [magnitude_eq]
  exact Nat.mul_le_mul (by omega) (Nat.pow_le_pow_right (by decide) hk)

/-- Whether a number without a sign stands below another one, and above all smaller ones with even
significands. -/
structure IsGap (z y : Binary64) : Prop where
  negative : z.negative = false
  pos : 0 < z.magnitude
  lt : z.magnitude < y.magnitude
  gt_of_even {x : Binary64} (hx : Even x.significand) (hxy : x.magnitude < y.magnitude) :
    x.magnitude < z.magnitude

/-- Below the least significand on a scale the next smaller scale ends. -/
theorem exists_isGap_of_least {y : Binary64} (hsignificand : y.significand = 2 ^ 52)
    (hscale : 0 < y.scale) : ∃ z, IsGap z y := by
  obtain ⟨k, hk⟩ := Nat.exists_eq_add_of_lt hscale
  rw [Nat.zero_add] at hk
  have hle := y.scale_le
  have hy : y.magnitude = 2 ^ 53 * 2 ^ k := by
    rw [magnitude_eq, hsignificand, hk]
    ring
  have hunit : 0 < 2 ^ k := Nat.two_pow_pos k
  obtain ⟨z, -, hz, -, hzMagnitude⟩ :=
    exists_ofFields?_eq false (s := 2 ^ 53 - 1) (k := k) (by decide) (by omega)
      (Or.inr (by decide))
  refine ⟨z, hz, ?_, ?_, ?_⟩
  · rw [hzMagnitude]
    positivity
  · rw [hzMagnitude, hy]
    exact Nat.mul_lt_mul_of_pos_right (show 2 ^ 53 - 1 < 2 ^ 53 by decide) hunit
  · intro x hx hxy
    have hbelow : x.magnitude ≤ (2 ^ 53 - 2) * 2 ^ k := by
      rcases le_or_gt x.scale k with hxk | hxk
      · exact magnitude_le_of_even hx hxk
      · -- What a greater scale counts is twice the unit, so this one is even as well.
        obtain ⟨s, -, hs⟩ := exists_magnitude_eq hxk
        have hdouble : s * 2 ^ (k + 1) = 2 * s * 2 ^ k := by ring
        rw [hs, hdouble] at hxy ⊢
        rw [hy] at hxy
        have hlt := Nat.lt_of_mul_lt_mul_right hxy
        exact Nat.mul_le_mul_right _ (by omega)
    rw [hzMagnitude]
    exact hbelow.trans_lt
      (Nat.mul_lt_mul_of_pos_right (show 2 ^ 53 - 2 < 2 ^ 53 - 1 by decide) hunit)

/-- Below any other even significand there is an odd one on the same scale. -/
theorem exists_isGap_of_not_least {y : Binary64} (heven : Even y.significand)
    (hpos : 0 < y.significand) (hleast : y.scale = 0 ∨ 2 ^ 52 < y.significand) :
    ∃ z, IsGap z y := by
  obtain ⟨half, hhalf⟩ := heven
  have hlt := y.significand_lt
  rw [Nat.one_shiftLeft] at hlt
  have hunit : 0 < 2 ^ y.scale := Nat.two_pow_pos _
  obtain ⟨z, -, hz, -, hzMagnitude⟩ :=
    exists_ofFields?_eq false (s := y.significand - 1) (k := y.scale) (by omega) y.scale_le
      (by omega)
  refine ⟨z, hz, ?_, ?_, ?_⟩
  · rw [hzMagnitude]
    exact Nat.mul_pos (show 0 < y.significand - 1 by omega) hunit
  · rw [hzMagnitude, magnitude_eq]
    exact Nat.mul_lt_mul_of_pos_right (show y.significand - 1 < y.significand by omega) hunit
  · intro x hx hxy
    rw [hzMagnitude]
    rcases le_or_gt y.scale x.scale with hscale | hscale
    · obtain ⟨s, hs, hmagnitude⟩ := exists_magnitude_eq hscale
      rw [hmagnitude, magnitude_eq] at hxy
      have hlt := Nat.lt_of_mul_lt_mul_right hxy
      obtain ⟨half', hhalf'⟩ := hs hx
      rw [hmagnitude]
      exact Nat.mul_lt_mul_of_pos_right (show s < y.significand - 1 by omega) hunit
    · -- What is on a smaller scale stays below `2 ^ 52` on this one.
      obtain ⟨k, hk⟩ := Nat.exists_eq_add_of_lt (Nat.zero_lt_of_lt hscale)
      rw [Nat.zero_add] at hk
      have hdouble : (2 ^ 53 - 2) * 2 ^ k = (2 ^ 52 - 1) * 2 ^ y.scale := by
        rw [hk, pow_succ]
        omega
      have hbelow := magnitude_le_of_even hx (show x.scale ≤ k by omega)
      rw [hdouble] at hbelow
      refine hbelow.trans_lt (Nat.mul_lt_mul_of_pos_right ?_ hunit)
      show 2 ^ 52 - 1 < y.significand - 1
      omega

/-- Below each positive number with an even significand there is a gap. -/
theorem exists_isGap {y : Binary64} (heven : Even y.significand) (hpos : 0 < y.magnitude) :
    ∃ z, IsGap z y := by
  have hsignificand : 0 < y.significand := by
    rw [magnitude_eq] at hpos
    exact Nat.pos_of_mul_pos_right hpos
  have hnormal := y.normal
  rw [Nat.one_shiftLeft] at hnormal
  by_cases hleast : y.significand = 2 ^ 52 ∧ 0 < y.scale
  · exact exists_isGap_of_least hleast.1 hleast.2
  · exact exists_isGap_of_not_least heven hsignificand (by omega)

/-- Between two numbers with even significands there is another one, if the greater one is positive.
-/
theorem exists_between_of_pos {x y : Binary64} (hx : Even x.significand) (hy : Even y.significand)
    (hlt : x.units < y.units) (hpos : 0 < y.units) :
    ∃ z : Binary64, x.units < z.units ∧ z.units < y.units := by
  have hyUnits : y.units = y.magnitude := by
    cases hnegative : y.negative with
    | true =>
      rw [units_of_negative hnegative] at hpos
      omega
    | false => exact units_of_not_negative hnegative
  obtain ⟨z, hz, hzpos, hzy, hbelow⟩ := exists_isGap hy (by omega)
  have hzUnits := units_of_not_negative hz
  refine ⟨z, ?_, by omega⟩
  cases hnegative : x.negative with
  | true =>
    rw [units_of_negative hnegative]
    omega
  | false =>
    rw [units_of_not_negative hnegative] at hlt ⊢
    have hxz := hbelow hx (by omega)
    omega

/-- Between two numbers with even significands there is another one. -/
theorem exists_between_of_even {x y : Binary64} (hx : Even x.significand) (hy : Even y.significand)
    (hlt : x.units < y.units) : ∃ z : Binary64, x.units < z.units ∧ z.units < y.units := by
  rcases lt_or_ge 0 y.units with hpos | hnonpos
  · exact exists_between_of_pos hx hy hlt hpos
  · -- Changing signs puts the greater magnitude on the right.
    obtain ⟨z, hyz, hzx⟩ := exists_between_of_pos (x := y.neg) (y := x.neg) hy hx
      (by simpa using hlt) (by rw [units_neg]; omega)
    rw [units_neg] at hyz hzx
    refine ⟨z.neg, ?_, ?_⟩ <;> rw [units_neg] <;> omega

/-- The numbers nearest to one rational have the same value. -/
theorem IsNearest.value_eq {x y : Binary64} {q : ℚ} (hx : x.IsNearest q) (hy : y.IsNearest q) :
    x.value = y.value := by
  have hle {x y : Binary64} (hx : x.IsNearest q) (hy : y.IsNearest q) : y.value ≤ x.value := by
    by_contra hgt
    rw [not_le] at hgt
    have htie : |x.value - q| = |y.value - q| := le_antisymm (hx.dist_le y) (hy.dist_le x)
    have hxEven := hx.even_of_tie y htie.symm hgt.ne'
    have hyEven := hy.even_of_tie x htie hgt.ne
    obtain ⟨z, hxz, hzy⟩ :=
      exists_between_of_even hxEven hyEven ((value_lt_value_iff x y).1 hgt)
    have hzy := (value_lt_value_iff z y).2 hzy
    have hxz := (value_lt_value_iff x z).2 hxz
    -- As near as both are, the rational is in the middle, and the one between is nearer.
    have hmiddle : 2 * q ≤ y.value + x.value := two_mul_le_add hgt htie.le
    have hnear : y.value + z.value ≤ 2 * q := add_le_two_mul hzy (hy.dist_le z)
    linarith
  exact le_antisymm (hle hy hx) (hle hx hy)

/-- Of two equal numbers neither has a greater scale, since significands have all their digits. -/
theorem scale_le_of_magnitude_eq {x y : Binary64} (h : x.magnitude = y.magnitude) :
    y.scale ≤ x.scale := by
  by_contra hlt
  rw [not_le] at hlt
  have hnormal : 2 ^ 52 ≤ y.significand := by
    have hcases := y.normal
    rw [Nat.one_shiftLeft] at hcases
    exact hcases.resolve_left (by omega)
  have hdigits := x.significand_lt
  rw [Nat.one_shiftLeft] at hdigits
  have hmagnitude : x.magnitude < y.magnitude := by
    rw [magnitude_eq, magnitude_eq]
    calc x.significand * 2 ^ x.scale
      _ < 2 ^ 53 * 2 ^ x.scale := Nat.mul_lt_mul_of_pos_right hdigits (Nat.two_pow_pos _)
      _ = 2 ^ 52 * 2 ^ (x.scale + 1) := by ring
      _ ≤ y.significand * 2 ^ y.scale :=
        Nat.mul_le_mul hnormal (Nat.pow_le_pow_right (by decide) hlt)
  exact hmagnitude.ne h

/-- A number is given by its value and its sign, which zero has too. -/
theorem eq_of_value_eq {x y : Binary64} (hvalue : x.value = y.value)
    (hnegative : x.negative = y.negative) : x = y := by
  have hunits := (value_eq_value_iff x y).1 hvalue
  have hmagnitude : x.magnitude = y.magnitude := by
    cases hx : x.negative with
    | true =>
      rw [units_of_negative hx, units_of_negative (hnegative ▸ hx)] at hunits
      omega
    | false =>
      rw [units_of_not_negative hx, units_of_not_negative (hnegative ▸ hx)] at hunits
      omega
  have hscale : x.scale = y.scale :=
    le_antisymm (scale_le_of_magnitude_eq hmagnitude.symm) (scale_le_of_magnitude_eq hmagnitude)
  have hsignificand : x.significand = y.significand := by
    rw [magnitude_eq, magnitude_eq, hscale] at hmagnitude
    exact Nat.eq_of_mul_eq_mul_right (Nat.two_pow_pos _) hmagnitude
  cases x
  cases y
  simp_all

/-- No two numbers of one sign are nearest to one rational. -/
theorem IsNearest.eq {x y : Binary64} {q : ℚ} (hx : x.IsNearest q) (hy : y.IsNearest q)
    (hnegative : x.negative = y.negative) : x = y :=
  eq_of_value_eq (hx.value_eq hy) hnegative

/-! ## Telling rationals apart -/

/-- Whether rounding makes two rationals equal: the numbers nearest to them have the same value. -/
def Indistinct (q r : ℚ) : Prop :=
  ∃ x y : Binary64, x.IsNearest q ∧ y.IsNearest r ∧ x.value = y.value

section Indistinct

variable {x y : Binary64} {q r : ℚ}

/-- Two rounded numbers count as the same exactly if the rationals cannot be told apart by rounding.
-/
theorem IsNearest.same_iff (hx : x.IsNearest q) (hy : y.IsNearest r) :
    x.same y ↔ Indistinct q r := by
  unfold same
  rw [beq_iff_eq, ← value_eq_value_iff]
  constructor
  · intro heq
    exact ⟨x, y, hx, hy, heq⟩
  · rintro ⟨x', y', hx', hy', heq⟩
    rw [hx.value_eq hx', heq, hy'.value_eq hy]

/-- A rational that has a nearest number cannot be told apart from itself. -/
theorem IsNearest.indistinct_self (hx : x.IsNearest q) : Indistinct q q :=
  ⟨x, x, hx, hx, rfl⟩

/-- Which of two rationals comes first does not matter. -/
theorem indistinct_comm : Indistinct q r ↔ Indistinct r q := by
  constructor <;>
  · rintro ⟨x, y, hx, hy, heq⟩
    exact ⟨y, x, hy, hx, heq.symm⟩

/-- Rounding keeps the order of rationals that it does not make equal, and no other. -/
theorem IsNearest.lt_iff (hx : x.IsNearest q) (hy : y.IsNearest r) :
    x.lt y ↔ q < r ∧ ¬Indistinct q r := by
  rw [← hx.same_iff hy]
  unfold lt same
  rw [decide_eq_true_iff, beq_iff_eq]
  constructor
  · intro hlt
    refine ⟨?_, hlt.ne⟩
    by_contra hle
    rw [← value_lt_value_iff] at hlt
    rcases (not_lt.1 hle).lt_or_eq with hgt | rfl
    · exact absurd (hy.value_mono hx hgt) hlt.not_ge
    · exact absurd (hx.value_eq hy) hlt.ne
  · rintro ⟨hlt, hne⟩
    have hle := hx.value_mono hy hlt
    rw [← value_eq_value_iff] at hne
    exact (value_lt_value_iff x y).1 (lt_of_le_of_ne hle hne)

end Indistinct

end FieldRules.Binary64
