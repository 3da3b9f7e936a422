import FieldRules.Proofs.Number.Rounding
import FieldRules.Proofs.Rules.Options

/-!
# Bounds on integers

The rules `integer`, `number` and `numeric` round a value and its bounds before they compare them.
So an integer passes two integer bounds exactly if it keeps them or rounding makes it equal to those
that it breaks (`Rules.numeric_boundsArgs_eq_pass_iff`).  Rounding keeps integers of at most 53
binary digits apart (`Rules.numeric_boundsArgs_of_natAbs_lt`).
-/

set_option autoImplicit false

namespace FieldRules

namespace Rules

/-- The arguments that bound an integer below and above. -/
def boundsArgs (lo hi : WordInt) : Args :=
  .options [("min", .number (.int lo)), ("max", .number (.int hi))]

/-- An integer as the value of a rule. -/
def integerValue (n : WordInt) : Option Json :=
  some (.number (.int n))

/-- Whether an integer keeps two bounds once all three are rounded: it keeps them, or rounding makes
it equal to those that it breaks. -/
def KeepsRounded (lo hi v : WordInt) : Prop :=
  (lo.val ≤ v.val ∨ Binary64.Indistinct v.val lo.val) ∧
    (v.val ≤ hi.val ∨ Binary64.Indistinct v.val hi.val)

section Bounds

variable {lo hi v : WordInt}

/-- A value and its bounds are compared as the numbers nearest to them. -/
theorem numeric_eq_ofBool {args : Args} (hmax : args.getSet? "max" = some (.number (.int hi)))
    (hmin : args.getSet? "min" = some (.number (.int lo)))
    (hdecimals : args.verdict "decimals" Json.integer? (fun d => decide (d ≤ 0)) = .satisfied)
    {x y z : Binary64} (hx : Binary64.ofInt? v.val = some x) (hy : Binary64.ofInt? lo.val = some y)
    (hz : Binary64.ofInt? hi.val = some z) :
    numeric (integerValue v) args = .ofBool (!z.lt x && !x.lt y) := by
  have hread {n : WordInt} {w : Binary64} (hw : Binary64.ofInt? n.val = some w) :
      (Json.number (.int n)).number? = some w := hw
  have hdigits : (fractionDigits (.number (.int v)) : ℤ) = 0 := rfl
  simp only [numeric, integerValue, hread hx, Args.verdict_of_getSet?_eq_some hmax (hread hz),
    Args.verdict_of_getSet?_eq_some hmin (hread hy), hdigits, hdecimals]
  cases z.lt x <;> cases x.lt y <;> rfl

/-- Keeping the rounded bounds, said of the numbers that are compared. -/
theorem keepsRounded_iff {x y z : Binary64} (hx : x.IsNearest v.val) (hy : y.IsNearest lo.val)
    (hz : z.IsNearest hi.val) : (!z.lt x && !x.lt y) = true ↔ KeepsRounded lo hi v := by
  rw [Bool.and_eq_true, Bool.not_eq_true', Bool.not_eq_true', ← Bool.not_eq_true,
    ← Bool.not_eq_true, hz.lt_iff hx, hx.lt_iff hy, Int.cast_lt, Int.cast_lt,
    Binary64.indistinct_comm, not_and_not_right, not_and_not_right, imp_iff_not_or,
    imp_iff_not_or, not_lt, not_lt, KeepsRounded, and_comm]

/-- Both rules that take integers go by the rounded bounds. -/
theorem exists_numeric_boundsArgs_eq (lo hi v : WordInt) :
    ∃ passed : Bool, (passed = true ↔ KeepsRounded lo hi v) ∧
      numeric (integerValue v) (boundsArgs lo hi) = .ofBool passed ∧
      integer (integerValue v) (boundsArgs lo hi) = .ofBool passed := by
  obtain ⟨x, hx, hxv⟩ := Binary64.exists_ofInt?_eq v.natAbs_lt
  obtain ⟨y, hy, hylo⟩ := Binary64.exists_ofInt?_eq lo.natAbs_lt
  obtain ⟨z, hz, hzhi⟩ := Binary64.exists_ofInt?_eq hi.natAbs_lt
  have hzero : Json.integer? (.number (.int { val := 0 })) = some 0 := by
    rw [Json.integer?, if_pos (by decide)]
  refine ⟨!z.lt x && !x.lt y, keepsRounded_iff hxv hylo hzhi, ?_, ?_⟩
  · have hdecimals : (boundsArgs lo hi).getSet? "decimals" = none := rfl
    exact numeric_eq_ofBool rfl rfl (Args.verdict_of_getSet?_eq_none hdecimals _ _) hx hy hz
  · -- The digits that `integer` asks for, none, are no demand.
    have hdecimals : ((boundsArgs lo hi).set "decimals" (.number (.int { val := 0 }))).getSet?
        "decimals" = some (.number (.int { val := 0 })) := rfl
    have hverdict := Args.verdict_of_getSet?_eq_some hdecimals hzero fun d => decide (d ≤ 0)
    have hinteger : integer (integerValue v) (boundsArgs lo hi) = numeric (integerValue v)
        ((boundsArgs lo hi).set "decimals" (.number (.int { val := 0 }))) := rfl
    rw [hinteger]
    exact numeric_eq_ofBool rfl rfl hverdict hx hy hz

/-- **Bounds on integers.**  The three rules on numbers give an integer the same outcome: a pass if
it keeps its two bounds or rounding makes it equal to those that it breaks, and else a failure.  So
the outcome is that of exact integers unless the integer breaks a bound and rounding makes it equal
to each one that it breaks. -/
theorem numeric_boundsArgs_eq_pass_iff (lo hi v : WordInt) :
    let outcome := numeric (integerValue v) (boundsArgs lo hi)
    integer (integerValue v) (boundsArgs lo hi) = outcome ∧
      number (integerValue v) (boundsArgs lo hi) = outcome ∧
      (outcome = .pass ↔ KeepsRounded lo hi v) ∧ (outcome = .fail ↔ ¬KeepsRounded lo hi v) ∧
      (outcome = .ofBool (decide (lo.val ≤ v.val ∧ v.val ≤ hi.val)) ↔
        (lo.val ≤ v.val ∧ v.val ≤ hi.val) ∨
          v.val < lo.val ∧ ¬Binary64.Indistinct v.val lo.val ∨
          hi.val < v.val ∧ ¬Binary64.Indistinct v.val hi.val) := by
  obtain ⟨passed, hpassed, hnumeric, hinteger⟩ := exists_numeric_boundsArgs_eq lo hi v
  intro outcome
  have houtcome : outcome = .ofBool passed := hnumeric
  rw [houtcome]
  refine ⟨hinteger, hnumeric, ?_, ?_, ?_⟩
  · rw [Outcome.ofBool_eq_pass_iff, hpassed]
  · rw [Outcome.ofBool_eq_fail_iff, ← Bool.not_eq_true, hpassed]
  · have hclaimed : Outcome.ofBool passed = .ofBool (decide (lo.val ≤ v.val ∧ v.val ≤ hi.val)) ↔
        (KeepsRounded lo hi v ↔ lo.val ≤ v.val ∧ v.val ≤ hi.val) := by
      rw [Outcome.ofBool_inj, ← hpassed, Bool.eq_iff_iff, decide_eq_true_iff]
    rw [hclaimed, KeepsRounded, ← not_le, ← not_le]
    by_cases hlower : lo.val ≤ v.val <;> by_cases hupper : v.val ≤ hi.val <;>
      simp [hlower, hupper, imp_iff_not_or]

/-- Integers of at most 53 binary digits keep their bounds as exact integers do. -/
theorem numeric_boundsArgs_of_natAbs_lt (hlo : lo.val.natAbs < 2 ^ 53)
    (hhi : hi.val.natAbs < 2 ^ 53) (hv : v.val.natAbs < 2 ^ 53) :
    numeric (integerValue v) (boundsArgs lo hi) =
      .ofBool (decide (lo.val ≤ v.val ∧ v.val ≤ hi.val)) := by
  obtain ⟨passed, hpassed, hnumeric, -⟩ := exists_numeric_boundsArgs_eq lo hi v
  rw [hnumeric, Outcome.ofBool_inj, Bool.eq_iff_iff, decide_eq_true_iff, hpassed, KeepsRounded]
  constructor
  · rintro ⟨hlower, hupper⟩
    exact ⟨hlower.elim id fun h => (h.eq_of_natAbs_lt hv hlo).ge,
      hupper.elim id fun h => (h.eq_of_natAbs_lt hv hhi).le⟩
  · rintro ⟨hlower, hupper⟩
    exact ⟨Or.inl hlower, Or.inl hupper⟩

/-- The first integer that is no floating-point number passes a bound one below it. -/
theorem integer_eq_pass_above_max :
    integer (integerValue { val := 9007199254740993 })
        (boundsArgs { val := 0 } { val := 9007199254740992 }) = .pass ∧
      ¬(9007199254740993 : ℤ) ≤ 9007199254740992 := by
  decide +kernel

end Bounds

end Rules

end FieldRules
