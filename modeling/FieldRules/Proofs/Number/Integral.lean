import FieldRules.Proofs.Number.Written

/-!
# Rounded integers

The number nearest to an integer is an integer (`Binary64.IsNearest.exists_value_eq`), since all
numbers from `2 ^ 52` on are.  So the text of an integer is read as an integer, though as another
one where its digits do not fit; it is read as none where that one is not in the signed word
(`WordInt.integer?_string_eq`).
-/

set_option autoImplicit false

namespace FieldRules

namespace Binary64

/-! ## Numbers that are integers -/

/-- A number is an integer exactly if it has the units of that integer. -/
theorem value_eq_intCast_iff {x : Binary64} {m : ℤ} : x.value = m ↔ x.units = m * unitCount := by
  rw [value, div_eq_iff cast_unitCount_pos.ne']
  norm_cast

/-- Without its sign a number has its magnitude in units. -/
theorem natAbs_units (x : Binary64) : x.units.natAbs = x.magnitude := by
  unfold units
  split
  · rw [Int.natAbs_neg, Int.natAbs_natCast]
  · rw [Int.natAbs_natCast]

/-- A number is taken for an integer exactly if it is that integer. -/
theorem toInt?_eq_some_iff {x : Binary64} {m : ℤ} : x.toInt? = some m ↔ x.value = m := by
  have hunit : (unitCount : ℤ) ≠ 0 := by exact_mod_cast unitCount_pos.ne'
  have hshift : 1 <<< 1074 = unitCount := rfl
  rw [value_eq_intCast_iff]
  unfold toInt?
  rw [hshift]
  split
  · rename_i hdvd
    obtain ⟨q, hq⟩ := Nat.dvd_of_mod_eq_zero hdvd
    have hunits : x.units = (if x.negative then -(q : ℤ) else q) * unitCount := by
      unfold units
      rw [hq]
      split <;> push_cast <;> ring
    rw [hunits, mul_left_inj' hunit, Option.some_inj, hq, Nat.mul_div_cancel_left _ unitCount_pos]
  · rename_i hrest
    have hne : x.units ≠ m * unitCount := by
      intro heq
      have hmagnitude : x.magnitude = m.natAbs * unitCount := by
        rw [← natAbs_units, heq, Int.natAbs_mul, Int.natAbs_natCast]
      rw [hmagnitude, Nat.mul_mod_left] at hrest
      exact hrest rfl
    simp [hne]

/-- Whether an integer is rounded to another one: the number nearest to it has that value. -/
def RoundsTo (n m : ℤ) : Prop :=
  ∃ x : Binary64, x.IsNearest n ∧ x.value = m

namespace RoundsTo

variable {n m n' m' : ℤ}

/-- Rounding does not depend on the sign. -/
theorem neg (h : RoundsTo n m) : RoundsTo (-n) (-m) := by
  obtain ⟨x, hx, hvalue⟩ := h
  refine ⟨x.neg, ?_, ?_⟩
  · rw [Int.cast_neg]
    exact hx.neg
  · rw [value_neg, hvalue, Int.cast_neg]

/-- Rounding keeps the order. -/
theorem mono (h : RoundsTo n m) (h' : RoundsTo n' m') (hle : n ≤ n') : m ≤ m' := by
  obtain ⟨x, hx, hm⟩ := h
  obtain ⟨y, hy, hm'⟩ := h'
  have hvalue : x.value ≤ y.value := by
    rcases hle.lt_or_eq with hlt | rfl
    · exact hx.value_mono hy (by exact_mod_cast hlt)
    · exact (hx.value_eq hy).le
  rw [hm, hm'] at hvalue
  exact_mod_cast hvalue

/-- An integer is rounded to one integer. -/
theorem unique (h : RoundsTo n m) (h' : RoundsTo n m') : m = m' :=
  le_antisymm (h.mono h' le_rfl) (h'.mono h le_rfl)

/-- Small integers stay as they are. -/
theorem of_natAbs_lt (hn : n.natAbs < 2 ^ 53) : RoundsTo n n := by
  obtain ⟨x, hx⟩ := exists_value_eq hn
  exact ⟨x, isNearest_of_value_eq hx, hx⟩

/-- What an integer is rounded to can be computed. -/
theorem of_ofInt? {n : WordInt} (h : (ofInt? n.val).bind toInt? = some m) : RoundsTo n.val m := by
  obtain ⟨x, hx, hnearest⟩ := exists_ofInt?_eq n.natAbs_lt
  rw [hx, Option.bind_some] at h
  exact ⟨x, hnearest, toInt?_eq_some_iff.1 h⟩

end RoundsTo

/-- From `2 ^ 52` on all numbers are integers. -/
theorem exists_value_eq_of_le {x : Binary64} (h : 2 ^ 52 ≤ x.value) : ∃ m : ℤ, x.value = m := by
  have hunit : (2 ^ 1074 : ℤ) = unitCount := by rw [unitCount_eq, Nat.cast_pow, Nat.cast_ofNat]
  have hcases := exists_units_eq_or_lt x 1074
  rw [hunit] at hcases
  rcases hcases with ⟨m, hm⟩ | ⟨-, hlt⟩
  · exact ⟨m, value_eq_intCast_iff.2 hm⟩
  · have hunits : (x.units : ℚ) < 2 ^ 52 * unitCount := by exact_mod_cast hlt
    rw [← div_lt_iff₀ cast_unitCount_pos] at hunits
    exact absurd hunits h.not_gt

/-- The number nearest to an integer is an integer. -/
theorem IsNearest.exists_value_eq {x : Binary64} {n : ℤ} (h : x.IsNearest n) :
    ∃ m : ℤ, x.value = m := by
  have hlarge {x : Binary64} {n : ℤ} (h : x.IsNearest n) (hn : 2 ^ 53 ≤ n) :
      ∃ m : ℤ, x.value = m := by
    obtain ⟨y, hy, hvalue⟩ := RoundsTo.of_natAbs_lt (n := 2 ^ 52) (by decide)
    have hle : y.value ≤ x.value := by
      refine hy.value_mono h ?_
      exact_mod_cast (show (2 : ℤ) ^ 52 < n by omega)
    rw [hvalue] at hle
    exact exists_value_eq_of_le (by exact_mod_cast hle)
  rcases lt_or_ge n.natAbs (2 ^ 53) with hsmall | hge
  · obtain ⟨y, hy, hvalue⟩ := RoundsTo.of_natAbs_lt hsmall
    exact ⟨n, (h.value_eq hy).trans hvalue⟩
  rcases le_or_gt 0 n with hpos | hneg
  · exact hlarge h (by omega)
  · have hnearest := h.neg
    rw [← Int.cast_neg] at hnearest
    obtain ⟨m, hm⟩ := hlarge hnearest (by omega)
    refine ⟨-m, ?_⟩
    rw [Int.cast_neg, ← hm, value_neg, neg_neg]

/-- Integers are changed from `2 ^ 53` on only, and then stay beyond it. -/
theorem RoundsTo.cases {n m : ℤ} (h : RoundsTo n m) :
    m = n ∨ (2 ^ 53 ≤ n ∧ 2 ^ 53 ≤ m) ∨ (n ≤ -2 ^ 53 ∧ m ≤ -2 ^ 53) := by
  have hleast : RoundsTo 9007199254740992 9007199254740992 :=
    .of_ofInt? (n := { val := 9007199254740992 }) (by decide +kernel)
  rcases lt_or_ge n.natAbs (2 ^ 53) with hsmall | hge
  · exact .inl (h.unique (.of_natAbs_lt hsmall))
  right
  rcases le_or_gt 0 n with hpos | hneg
  · have hm := hleast.mono h (by omega)
    exact .inl ⟨by omega, by omega⟩
  · have hm := h.mono hleast.neg (by omega)
    exact .inr ⟨by omega, by omega⟩

/-- Where the integers stop that are rounded below `2 ^ 63`. -/
theorem RoundsTo.natAbs_lt_iff {n m : ℤ} (h : RoundsTo n m) :
    m.natAbs < 2 ^ 63 ↔ n.natAbs < 2 ^ 63 - 512 := by
  -- In the middle between `2 ^ 63 - 1024` and `2 ^ 63`, the tie goes up.
  have hlast : RoundsTo 9223372036854775295 9223372036854774784 :=
    .of_ofInt? (n := { val := 9223372036854775295 }) (by decide +kernel)
  have hnext : RoundsTo 9223372036854775296 9223372036854775808 :=
    .of_ofInt? (n := { val := 9223372036854775296 }) (by decide +kernel)
  have hcases {n m : ℤ} (h : RoundsTo n m) (hn : 0 ≤ n) :
      m.natAbs < 2 ^ 63 ↔ n.natAbs < 2 ^ 63 - 512 := by
    have hzero : 0 ≤ m := (RoundsTo.of_natAbs_lt (n := 0) (by decide)).mono h hn
    rcases le_or_gt n 9223372036854775295 with hle | hgt
    · have hm := h.mono hlast hle
      omega
    · have hm := hnext.mono h hgt
      omega
  rcases le_or_gt 0 n with hpos | hneg
  · exact hcases h hpos
  · rw [← Int.natAbs_neg m, ← Int.natAbs_neg n]
    exact hcases h.neg (by omega)

end Binary64

namespace WordInt

variable {n : WordInt} {m : ℤ} {s : String}

/-- Integers of less than 63 bits fit a signed word. -/
theorem exists_val_eq {m : ℤ} (hm : m.natAbs < 2 ^ 63) : ∃ n : WordInt, n.val = m := by
  refine ⟨⟨m, ?_, ?_⟩, rfl⟩ <;>
  · rw [Nat.one_shiftLeft]
    omega

/-- What a signed word holds is rounded to some integer. -/
theorem exists_roundsTo (n : WordInt) : ∃ m : ℤ, Binary64.RoundsTo n.val m := by
  obtain ⟨x, -, hnearest⟩ := Binary64.exists_ofInt?_eq n.natAbs_lt
  obtain ⟨m, hm⟩ := hnearest.exists_value_eq
  exact ⟨m, x, hnearest, hm⟩

/-- What the text of an integer is read as, if an integer is asked for. -/
theorem integer?_string_eq (hs : Text.IsPadded (toString n.val).toList s)
    (h : Binary64.RoundsTo n.val m) :
    (Json.string s).integer? = if n.val.natAbs < 2 ^ 63 - 512 then some m else none := by
  have hmost : m.natAbs < 1 <<< 63 ↔ n.val.natAbs < 2 ^ 63 - 512 := by
    rw [Nat.one_shiftLeft]
    exact h.natAbs_lt_iff
  obtain ⟨x, hx, hnearest⟩ := Binary64.exists_ofInt?_eq n.natAbs_lt
  obtain ⟨y, hy, hvalue⟩ := h
  have hread : x.toInt? = some m :=
    Binary64.toInt?_eq_some_iff.2 ((hnearest.value_eq hy).trans hvalue)
  rw [Json.integer?, textNumber?_eq hs, hx, Option.bind_some, Json.floatInteger?, hread,
    Option.filter_some]
  simp only [decide_eq_true_eq, hmost]

end WordInt

end FieldRules
