import FieldRules.Proofs.Number.Rounding

/-!
# Numbers that are too large

Rounding gives a number exactly below `Binary64.limit` (`isSome_ofRatio?_iff`,
`isSome_ofDecimal?_iff`).  This is the middle between the greatest number and `2 ^ 1024`; from there
on the even significand is that of `2 ^ 1024`, which is no number any more (`isInRange_iff`).
-/

set_option autoImplicit false

namespace FieldRules.Binary64

/-- From where on rationals are too large to be rounded. -/
def limit : ℚ :=
  2 ^ 1024 - 2 ^ 970

section Quotient

variable {n d : ℕ}

/-- What lies halfway below an even number is rounded to it. -/
theorem le_roundQuotient_iff (hd : 0 < d) {e : ℕ} (he : Even e) :
    e ≤ roundQuotient n d ↔ 2 * (e * d) ≤ 2 * n + d := by
  have hn : n / d * d + n % d = n := Nat.div_add_mod' n d
  have hr := Nat.mod_lt n hd
  have hcases := roundQuotient_cases n d
  rw [Nat.even_iff] at he
  simp only [Nat.even_iff] at hcases
  generalize n / d = q at hn hcases
  generalize n % d = r at hn hr hcases
  -- Of the products with the divisor only their order counts.
  have hle {i j : ℕ} (h : i ≤ j) : i * d ≤ j * d := Nat.mul_le_mul_right d h
  have hone : (q + 1) * d = q * d + d := by ring
  have htwo : (q + 2) * d = q * d + 2 * d := by ring
  rcases hcases with ⟨hround, hhalf, heven⟩ | ⟨hround, hhalf, -⟩
  · rw [hround]
    constructor
    · intro h
      have := hle h
      omega
    · intro h
      by_contra hlt
      have hnext : (q + 1) * d ≤ e * d := hle (by omega)
      -- The middle would lie above an even quotient, and the next number is odd.
      have hquotient : q % 2 = 0 := heven (by omega)
      have hafter : (q + 2) * d ≤ e * d := hle (by omega)
      omega
  · rw [hround]
    constructor
    · intro h
      have := hle h
      omega
    · intro h
      by_contra hlt
      have hafter : (q + 2) * d ≤ e * d := hle (by omega)
      omega

/-- Fields of a normal significand make a number exactly if the scale is not too large. -/
theorem isSome_ofFields?_iff (negative : Bool) {s k : ℕ} (hs : s < 2 ^ 53)
    (h : k = 0 ∨ 2 ^ 52 ≤ s) : (ofFields? negative s k).isSome = true ↔ k ≤ 2045 := by
  rw [← Nat.one_shiftLeft] at hs h
  unfold ofFields?
  split
  · rename_i hfields
    exact iff_of_true rfl hfields.2.1
  · rename_i hfields
    exact iff_of_false Bool.false_ne_true fun hk => hfields ⟨hs, hk, h⟩

/-- A quotient is rounded to a number unless its scale is too great, or rounding carries beyond the
greatest one. -/
theorem isSome_ofRatio?_iff_scaleOf (negative : Bool) {k s : ℕ}
    (hk : k = scaleOf (n * unitCount / d)) (hs : s = roundQuotient (n * unitCount) (d * 2 ^ k)) :
    (ofRatio? negative n d).isSome = true ↔ k < 2045 ∨ k = 2045 ∧ s < 2 ^ 53 := by
  have hle : s ≤ 2 ^ 53 := by
    rw [hs, hk]
    exact roundQuotient_scaleOf_le _ _
  have hnormal : k = 0 ∨ 2 ^ 52 ≤ s := by
    rw [hs, hk]
    exact (Nat.eq_zero_or_pos _).imp_right le_roundQuotient_scaleOf
  rw [ofRatio?_eq negative hk hs]
  split_ifs with hcarry
  · rw [isSome_ofFields?_iff negative (by decide) (Or.inr le_rfl)]
    omega
  · rw [isSome_ofFields?_iff negative (by omega) hnormal]
    omega

/-- Counted in units, the middle between the greatest number and the next power of two decides. -/
theorem isSome_ofRatio?_iff_lt (negative : Bool) (hd : 0 < d) {half : ℕ} (hhalf : half = 2 ^ 2044) :
    (ofRatio? negative n d).isSome = true ↔ n * unitCount < (2 ^ 54 - 1) * (half * d) := by
  rw [isSome_ofRatio?_iff_scaleOf negative rfl rfl]
  generalize n * unitCount = m
  -- At the greatest scale rounding decides; any smaller one fits, and any larger one does not.
  rcases lt_trichotomy (scaleOf (m / d)) 2045 with hsmall | hlast | hlarge
  · refine iff_of_true (Or.inl hsmall) ?_
    have hm : m < 2 ^ 53 * 2 ^ scaleOf (m / d) * d :=
      (Nat.div_lt_iff_lt_mul hd).1 (lt_two_pow_scaleOf _)
    have hscale : 2 ^ scaleOf (m / d) ≤ half :=
      (pow_le_pow_right₀ (by decide) (by omega)).trans_eq hhalf.symm
    calc m
      _ < 2 ^ 53 * 2 ^ scaleOf (m / d) * d := hm
      _ ≤ 2 ^ 53 * half * d := Nat.mul_le_mul_right d (Nat.mul_le_mul_left _ hscale)
      _ = 2 ^ 53 * (half * d) := mul_assoc _ _ _
      _ ≤ (2 ^ 54 - 1) * (half * d) := Nat.mul_le_mul_right _ (by decide)
  · have hstep : d * 2 ^ 2045 = 2 * (half * d) := by
      rw [hhalf, pow_succ, mul_comm d, mul_comm _ 2, mul_assoc]
    have hpos : 0 < d * 2 ^ 2045 := Nat.mul_pos hd (pow_pos two_pos 2045)
    have hround := le_roundQuotient_iff (n := m) hpos (e := 2 ^ 53) (by decide)
    rw [hlast]
    rw [hstep] at hround ⊢
    omega
  · refine iff_of_false (by omega) ?_
    have hm : 2 ^ 52 * (d * 2 ^ scaleOf (m / d)) ≤ m := two_pow_mul_le (by omega)
    have hscale : half * 2 ^ 2 ≤ 2 ^ scaleOf (m / d) := by
      rw [hhalf, ← pow_add]
      exact pow_le_pow_right₀ (by decide) (by omega)
    rw [not_lt]
    calc (2 ^ 54 - 1) * (half * d)
      _ ≤ 2 ^ 54 * (half * d) := Nat.mul_le_mul_right _ (by decide)
      _ = 2 ^ 52 * (d * (half * 2 ^ 2)) := by ring
      _ ≤ 2 ^ 52 * (d * 2 ^ scaleOf (m / d)) :=
        Nat.mul_le_mul_left _ (Nat.mul_le_mul_left d hscale)
      _ ≤ m := hm

/-- The limit in units: the middle between the greatest number and the next power of two. -/
theorem limit_mul_unitCount {half : ℕ} (hhalf : half = 2 ^ 2044) :
    limit * unitCount = (2 ^ 54 - 1) * half := by
  have hpower : (2 : ℚ) ^ 1024 * 2 ^ 1074 = 2 ^ 54 * 2 ^ 2044 := by rw [← pow_add, ← pow_add]
  have hlast : (2 : ℚ) ^ 970 * 2 ^ 1074 = 2 ^ 2044 := by rw [← pow_add]
  unfold limit
  rw [unitCount_eq, hhalf, Nat.cast_pow, Nat.cast_pow, Nat.cast_ofNat, sub_mul, hpower, hlast,
    sub_mul, one_mul]

/-- **Overflow.**  A quotient is rounded to a number exactly if it is below the limit. -/
theorem isSome_ofRatio?_iff (negative : Bool) (hd : 0 < d) :
    (ofRatio? negative n d).isSome = true ↔ (n / d : ℚ) < limit := by
  obtain ⟨half, hhalf⟩ : ∃ half : ℕ, half = 2 ^ 2044 := ⟨_, rfl⟩
  have hd' : (0 : ℚ) < d := by exact_mod_cast hd
  have hunits : limit * d * unitCount = ((2 ^ 54 - 1) * (half * d) : ℕ) := by
    rw [mul_right_comm, limit_mul_unitCount hhalf]
    push_cast
    ring
  rw [isSome_ofRatio?_iff_lt negative hd hhalf, div_lt_iff₀ hd',
    ← mul_lt_mul_iff_left₀ cast_unitCount_pos, hunits, ← Nat.cast_mul, Nat.cast_lt]

end Quotient

/-- The limit is not below one. -/
theorem one_le_limit : 1 ≤ limit := by
  have hone : (1 : ℚ) ≤ 2 ^ 970 := one_le_pow₀ (by norm_num)
  have hpower : (2 : ℚ) ^ 1024 = 2 ^ 970 * 2 ^ 54 := by rw [← pow_add]
  unfold limit
  rw [hpower]
  generalize (2 : ℚ) ^ 970 = last at hone
  linarith

/-- The limit is not below the greatest power of two that is a number. -/
theorem two_pow_le_limit : 2 ^ 1023 ≤ limit := by
  have hpower : (2 : ℚ) ^ 1024 = 2 * 2 ^ 1023 := pow_succ' 2 1023
  have hlast : (2 : ℚ) ^ 970 ≤ 2 ^ 1023 := pow_le_pow_right₀ (by norm_num) (by norm_num)
  have hpos : (0 : ℚ) < 2 ^ 1023 := by positivity
  unfold limit
  rw [hpower]
  generalize (2 : ℚ) ^ 1023 = power at hlast
  generalize (2 : ℚ) ^ 970 = last at hlast
  linarith

/-- The limit is no greater than twice the count of units. -/
theorem limit_le : limit ≤ 2 * unitCount := by
  have hpower : (2 : ℚ) ^ 1024 ≤ 2 ^ 1075 := pow_le_pow_right₀ (by norm_num) (by norm_num)
  unfold limit
  rw [unitCount_eq, Nat.cast_pow, Nat.cast_ofNat, ← pow_succ']
  exact (sub_le_self _ (by positivity)).trans hpower

/-- A decimal is read as a number exactly if it is below the limit. -/
theorem isSome_ofDecimal?_iff (negative : Bool) (d : Decimal) :
    (ofDecimal? negative d).isSome = true ↔ d.value < limit := by
  unfold ofDecimal?
  dsimp only
  split_ifs with hsmall hlarge hexponent
  · refine iff_of_true ((isSome_ofFields?_iff negative (by decide) (Or.inl rfl)).2 (by decide)) ?_
    have hone : (1 : ℚ) ≤ unitCount := by exact_mod_cast unitCount_pos
    have hvalue := two_mul_value_mul_unitCount_lt hsmall
    have hle : 2 * d.value ≤ 2 * d.value * unitCount :=
      le_mul_of_one_le_right (mul_nonneg two_pos.le d.value_nonneg) hone
    linarith [one_le_limit]
  · refine iff_of_false Bool.false_ne_true ?_
    rw [not_lt]
    exact limit_le.trans (two_mul_unitCount_le_value (not_or.1 hsmall).1 hlarge)
  · obtain ⟨m, hm⟩ := Int.eq_ofNat_of_zero_le hexponent
    rw [hm, Int.toNat_natCast, Decimal.value_eq_of_exponent_eq hm]
    exact isSome_ofRatio?_iff negative Nat.one_pos
  · obtain ⟨m, hm⟩ := Int.eq_ofNat_of_zero_le (show 0 ≤ -d.exponent by omega)
    rw [hm, Int.toNat_natCast, Decimal.value_eq_of_neg_exponent_eq hm]
    exact isSome_ofRatio?_iff negative (Nat.pow_pos (show 0 < 10 by decide))

/-- A decimal below the limit is read as the number nearest to it. -/
theorem exists_ofDecimal?_eq (negative : Bool) {d : Decimal} (h : d.value < limit) :
    ∃ x : Binary64, ofDecimal? negative d = some x ∧ x.IsNearest (signed negative d.value) := by
  obtain ⟨x, hx⟩ := Option.isSome_iff_exists.1 ((isSome_ofDecimal?_iff negative d).2 h)
  exact ⟨x, hx, (isNearest_of_ofDecimal?_eq_some hx).1⟩

/-! ## The range of the numbers -/

/-- Whether a rational is rounded to a number at all: its absolute value is nearer to some number
than to `2 ^ 1024`, which would be the next one and have an even significand. -/
def IsInRange (q : ℚ) : Prop :=
  ∃ x : Binary64, abs (x.value - |q|) < abs (2 ^ 1024 - |q|)

/-- The greatest number. -/
def greatest : ℚ :=
  (2 ^ 53 - 1) * 2 ^ 971

/-- The greatest number in units. -/
theorem greatest_mul_unitCount {last : ℕ} (hlast : last = 2 ^ 2045) :
    greatest * unitCount = ((2 ^ 53 - 1) * last : ℕ) := by
  have hpower : (2 : ℚ) ^ 971 * 2 ^ 1074 = last := by
    rw [hlast, Nat.cast_pow, Nat.cast_ofNat, ← pow_add]
  rw [greatest, unitCount_eq, Nat.cast_pow, Nat.cast_ofNat, mul_assoc, hpower]
  push_cast
  norm_num

/-- No number is greater than the greatest. -/
theorem value_le_greatest (x : Binary64) : x.value ≤ greatest := by
  obtain ⟨last, hlast⟩ : ∃ last : ℕ, last = 2 ^ 2045 := ⟨_, rfl⟩
  have hlt := x.significand_lt
  rw [Nat.one_shiftLeft] at hlt
  have hscale : 2 ^ x.scale ≤ last := by
    rw [hlast]
    exact pow_le_pow_right₀ (by decide) x.scale_le
  have hmagnitude : x.magnitude ≤ (2 ^ 53 - 1) * last := by
    rw [magnitude_eq]
    exact Nat.mul_le_mul (Nat.le_sub_one_of_lt hlt) hscale
  have hunits : x.units ≤ ((2 ^ 53 - 1) * last : ℕ) := by
    unfold units
    split <;> omega
  rw [value, div_le_iff₀ cast_unitCount_pos, greatest_mul_unitCount hlast]
  exact_mod_cast hunits

/-- The greatest number is one. -/
theorem exists_value_eq_greatest : ∃ x : Binary64, x.value = greatest := by
  obtain ⟨last, hlast⟩ : ∃ last : ℕ, last = 2 ^ 2045 := ⟨_, rfl⟩
  obtain ⟨x, -, hnegative, -, hmagnitude⟩ :=
    exists_ofFields?_eq false (s := 2 ^ 53 - 1) (k := 2045) (by decide) le_rfl
      (Or.inr (by decide))
  rw [← hlast] at hmagnitude
  refine ⟨x, ?_⟩
  rw [value, div_eq_iff cast_unitCount_pos.ne', greatest_mul_unitCount hlast,
    units_of_not_negative hnegative, hmagnitude, Int.cast_natCast]

/-- The limit is in the middle between the greatest number and the next power of two. -/
theorem exists_limit_eq :
    ∃ half : ℚ, 0 < half ∧ limit = greatest + half ∧ 2 ^ 1024 = greatest + 2 * half := by
  have hlast : (2 : ℚ) ^ 971 = 2 * 2 ^ 970 := pow_succ' 2 970
  have hpower : (2 : ℚ) ^ 1024 = 2 ^ 970 * 2 ^ 54 := by rw [← pow_add]
  refine ⟨2 ^ 970, by positivity, ?_⟩
  rw [limit, greatest, hpower, hlast]
  generalize (2 : ℚ) ^ 970 = half
  constructor <;> ring

/-- What is in the range of the numbers is what is below the limit. -/
theorem isInRange_iff {q : ℚ} : IsInRange q ↔ |q| < limit := by
  obtain ⟨half, hpos, hlimit, hnext⟩ := exists_limit_eq
  unfold IsInRange
  rw [hlimit, hnext]
  constructor
  · rintro ⟨x, hx⟩
    have hle := x.value_le_greatest
    by_contra hge
    rw [abs_lt] at hx
    rcases abs_cases (greatest + 2 * half - |q|) with ⟨habs, -⟩ | ⟨habs, -⟩ <;>
      rw [habs] at hx <;> linarith
  · intro hlt
    obtain ⟨x, hx⟩ := exists_value_eq_greatest
    refine ⟨x, ?_⟩
    rw [hx, abs_of_pos (show 0 < greatest + 2 * half - |q| by linarith), abs_lt]
    constructor <;> linarith

end FieldRules.Binary64
