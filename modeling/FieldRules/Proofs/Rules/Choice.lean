import FieldRules.Proofs.Number.Denoted
import FieldRules.Rules.Collection

/-!
# Choices

The rule `in` compares a number with numbers and with texts that are numbers, and rounds both before
it does.  `Json.EqualBy` is the equality of the rule with the comparison of numbers left open:
compared exactly it is what choosing a value should mean, and the rule takes numbers for equal that
rounding does not tell apart (`Json.looseSame_iff`).
-/

set_option autoImplicit false

namespace FieldRules

open Binary64 (Indistinct)

namespace Json

/-- Whether a value that is or denotes a number is or denotes an integer that a word holds. -/
def IsWordSized (v : Json) : Prop :=
  ∀ q ∈ v.denoted?, ∃ n : WordInt, q = n.val

/-- Whether a value that is or denotes a number is or denotes an integer of at most 53 binary
digits. -/
def IsSmall (v : Json) : Prop :=
  ∀ q ∈ v.denoted?, ∃ n : ℤ, n.natAbs < 2 ^ 53 ∧ q = n

/-- Whether two values are compared as numbers if both of them denote one: one is a number, and the
other is a number or a text. -/
def comparesNumbers : Json → Json → Bool
  | .number _, .number _ | .number _, .string _ | .string _, .number _ => true
  | _, _ => false

/-- What two values denote that are compared as numbers. -/
def numbers? (a b : Json) : Option (ℚ × ℚ) :=
  if comparesNumbers a b then Option.map₂ Prod.mk a.denoted? b.denoted? else none

/-- Whether two values are equal, numbers compared by the given relation and other values by
structure. -/
def EqualBy (R : ℚ → ℚ → Prop) (a b : Json) : Prop :=
  match numbers? a b with
  | some (q, r) => R q r
  | none => a.same b

/-- A value that denotes an integer of a word is word-sized. -/
theorem isWordSized_of_denoted?_eq {v : Json} {n : WordInt} (h : v.denoted? = some (n.val : ℚ)) :
    v.IsWordSized := by
  intro q hq
  rw [h] at hq
  exact ⟨n, (Option.some.inj hq).symm⟩

/-- A value of at most 53 binary digits is word-sized. -/
theorem IsSmall.isWordSized {v : Json} (h : v.IsSmall) : v.IsWordSized := by
  intro q hq
  obtain ⟨n, hn, rfl⟩ := h q hq
  exact ⟨⟨n, by rw [Nat.one_shiftLeft]; omega, by rw [Nat.one_shiftLeft]; omega⟩, rfl⟩

/-- What a word-sized value denotes is small enough to have a nearest number. -/
theorem IsWordSized.abs_lt {v : Json} (h : v.IsWordSized) {q : ℚ} (hq : v.denoted? = some q) :
    |q| < 2 ^ 1023 := by
  obtain ⟨n, rfl⟩ := h q hq
  have hlt : (n.val.natAbs : ℚ) < (2 ^ 1023 : ℕ) := Nat.cast_lt.2 n.natAbs_lt
  rwa [Nat.cast_natAbs, Int.cast_abs, Nat.cast_pow, Nat.cast_ofNat] at hlt

/-- Two values that are compared as numbers are equal if their numbers are. -/
theorem looseSame_of_number?_eq {a b : Json} (hab : comparesNumbers a b = true) {x y : Binary64}
    (hx : a.number? = some x) (hy : b.number? = some y) : a.looseSame b = x.same y := by
  cases a <;> cases b <;> simp only [comparesNumbers, Bool.false_eq_true] at hab <;>
    simp only [looseSame, hx, hy]

/-- Where one value is no number, two values are compared by structure. -/
theorem looseSame_of_number?_eq_none {a b : Json} (h : a.number? = none ∨ b.number? = none) :
    a.looseSame b = a.same b := by
  cases hx : a.number? with
  | none => cases a <;> cases b <;> first | rfl | simp only [looseSame, hx]
  | some x =>
    rcases h with ha | hb
    · rw [hx] at ha
      cases ha
    · cases a <;> cases b <;> first | rfl | simp only [looseSame, hx, hb]

/-- Values that are not compared as numbers are compared by structure. -/
theorem looseSame_of_not_comparesNumbers {a b : Json} (hab : comparesNumbers a b = false) :
    a.looseSame b = a.same b := by
  cases a <;> cases b <;> first | rfl | cases hab

/-- Rounding before numbers are compared makes equal those that it does not tell apart. -/
theorem looseSame_iff {a b : Json} (ha : a.IsWordSized) (hb : b.IsWordSized) :
    a.looseSame b ↔ a.EqualBy Indistinct b := by
  unfold EqualBy numbers?
  cases hab : comparesNumbers a b with
  | false =>
    rw [looseSame_of_not_comparesNumbers hab]
    rfl
  | true =>
    cases hq : a.denoted? with
    | none =>
      rw [looseSame_of_number?_eq_none (Or.inl (number?_eq_none hq))]
      rfl
    | some q =>
      cases hr : b.denoted? with
      | none =>
        rw [looseSame_of_number?_eq_none (Or.inr (number?_eq_none hr))]
        rfl
      | some r =>
        obtain ⟨x, hx, hxq⟩ := exists_number?_eq hq (ha.abs_lt hq)
        obtain ⟨y, hy, hyr⟩ := exists_number?_eq hr (hb.abs_lt hr)
        rw [looseSame_of_number?_eq hab hx hy]
        exact hxq.same_iff hyr

/-- The numbers that are compared are those that the values denote. -/
theorem denoted?_of_numbers?_eq {a b : Json} {q r : ℚ} (h : numbers? a b = some (q, r)) :
    a.denoted? = some q ∧ b.denoted? = some r := by
  unfold numbers? at h
  split at h
  · obtain ⟨q', r', hq, hr, heq⟩ := Option.map₂_eq_some_iff.1 h
    cases heq
    exact ⟨hq, hr⟩
  · cases h

/-- One comparison may stand for another if it says no less of the numbers that are compared. -/
theorem EqualBy.imp {R S : ℚ → ℚ → Prop} {a b : Json}
    (himp : ∀ q r, a.denoted? = some q → b.denoted? = some r → R q r → S q r) (h : a.EqualBy R b) :
    a.EqualBy S b := by
  unfold EqualBy at h ⊢
  cases hnumbers : numbers? a b with
  | none => rwa [hnumbers] at h
  | some pair =>
    rw [hnumbers] at h
    obtain ⟨ha, hb⟩ := denoted?_of_numbers?_eq hnumbers
    exact himp pair.1 pair.2 ha hb h

/-- Rounding keeps equal what is equal. -/
theorem EqualBy.indistinct {a b : Json} (ha : a.IsWordSized) (h : a.EqualBy (· = ·) b) :
    a.EqualBy Indistinct b := by
  refine h.imp fun q r hq _ heq => ?_
  obtain ⟨x, -, hx⟩ := exists_number?_eq hq (ha.abs_lt hq)
  exact heq ▸ hx.indistinct_self

/-- Rounding keeps apart what is small and not equal. -/
theorem EqualBy.eq_of_isSmall {a b : Json} (ha : a.IsSmall) (hb : b.IsSmall)
    (h : a.EqualBy Indistinct b) : a.EqualBy (· = ·) b := by
  refine h.imp fun q r hq hr hindistinct => ?_
  obtain ⟨m, hm, rfl⟩ := ha q hq
  obtain ⟨n, hn, rfl⟩ := hb r hr
  exact congrArg Int.cast (hindistinct.eq_of_natAbs_lt hm hn)

end Json

namespace Rules

/-- Whether a value is equal to some choice, numbers compared by the given relation. -/
def Chosen (R : ℚ → ℚ → Prop) (v : Json) (args : Args) : Prop :=
  ∃ choice ∈ args.values, v.EqualBy R choice

variable {v : Json} {args : Args}

/-- A value that is equal to a choice stays so once both are rounded. -/
theorem Chosen.indistinct (hv : v.IsWordSized) (h : Chosen (· = ·) v args) :
    Chosen Indistinct v args := by
  obtain ⟨choice, hmem, hequal⟩ := h
  exact ⟨choice, hmem, hequal.indistinct hv⟩

/-- The search through the choices finds a value that rounding makes equal to one. -/
theorem any_looseSame_iff (hv : v.IsWordSized)
    (hargs : ∀ choice ∈ args.values, choice.IsWordSized) :
    args.values.any (v.looseSame ·) = true ↔ Chosen Indistinct v args := by
  unfold Chosen
  rw [List.any_eq_true]
  exact exists_congr fun choice =>
    and_congr_right fun hmem => Json.looseSame_iff hv (hargs choice hmem)

/-- The rule passes a value exactly if rounding makes it equal to a choice. -/
theorem oneOf_pass_iff (hv : v.IsWordSized) (hargs : ∀ choice ∈ args.values, choice.IsWordSized) :
    oneOf (some v) args = .pass ↔ Chosen Indistinct v args := by
  unfold oneOf
  rw [Outcome.ofBool_eq_pass_iff, any_looseSame_iff hv hargs]

/-- The rule fails a value exactly if rounding makes it equal to no choice. -/
theorem oneOf_fail_iff (hv : v.IsWordSized) (hargs : ∀ choice ∈ args.values, choice.IsWordSized) :
    oneOf (some v) args = .fail ↔ ¬Chosen Indistinct v args := by
  unfold oneOf
  rw [Outcome.ofBool_eq_fail_iff, ← Bool.not_eq_true, any_looseSame_iff hv hargs]

/-- **Choosing a value.**  The rule `in` passes a value exactly if rounding makes it equal to a
choice, and else fails it.  So it goes by exact numbers exactly if a value that rounding makes equal
to a choice is equal to some choice. -/
theorem oneOf_eq_pass_iff (hv : v.IsWordSized)
    (hargs : ∀ choice ∈ args.values, choice.IsWordSized) :
    (oneOf (some v) args = .pass ↔ Chosen Indistinct v args) ∧
      (oneOf (some v) args = .fail ↔ ¬Chosen Indistinct v args) ∧
      (((oneOf (some v) args = .pass ↔ Chosen (· = ·) v args) ∧
          (oneOf (some v) args = .fail ↔ ¬Chosen (· = ·) v args)) ↔
        (Chosen Indistinct v args → Chosen (· = ·) v args)) := by
  have hpass := oneOf_pass_iff hv hargs
  have hfail := oneOf_fail_iff hv hargs
  refine ⟨hpass, hfail, ?_⟩
  rw [hpass, hfail]
  constructor
  · rintro ⟨hiff, -⟩
    exact hiff.1
  · intro h
    have hiff : Chosen Indistinct v args ↔ Chosen (· = ·) v args := ⟨h, Chosen.indistinct hv⟩
    exact ⟨hiff, not_congr hiff⟩

/-- A text with a point is the integer that it denotes. -/
theorem oneOf_eq_pass_iff_text :
    let v : Json := .string "3.0"
    let args : Args := .list [.number (.int { val := 1 }), .number (.int { val := 3 })]
    v.IsWordSized ∧ (∀ choice ∈ args.values, choice.IsWordSized) ∧ oneOf (some v) args = .pass := by
  intro v args
  have hdenoted : v.denoted? = some (3 : ℤ) := by
    have hread : NumericText.ofText? "3.0" = some ⟨false, ['3'], ['0'], 0⟩ := by decide
    have hthree : Text.numeralValue ['3'] = 3 := by decide
    have hzero : Text.numeralValue ['0'] = 0 := by decide
    rw [Json.denoted?, hread, Option.map_some, NumericText.denoted]
    norm_num [Binary64.signed, hthree, hzero]
  have hv : v.IsWordSized := Json.isWordSized_of_denoted?_eq (n := { val := 3 }) hdenoted
  have hargs : ∀ choice ∈ args.values, choice.IsWordSized := by
    simp only [args, Args.values, List.forall_mem_cons, List.not_mem_nil, false_imp_iff,
      implies_true, and_true]
    exact ⟨Json.isWordSized_of_denoted?_eq rfl, Json.isWordSized_of_denoted?_eq rfl⟩
  have hequal : v.EqualBy (· = ·) (.number (.int { val := 3 })) := by
    have hnumbers : v.numbers? (.number (.int { val := 3 })) =
        some (((3 : ℤ) : ℚ), ((3 : ℤ) : ℚ)) := by
      unfold Json.numbers?
      rw [hdenoted]
      rfl
    unfold Json.EqualBy
    rw [hnumbers]
  have hchosen : Chosen Indistinct v args :=
    ⟨.number (.int { val := 3 }), by simp [args, Args.values], hequal.indistinct hv⟩
  exact ⟨hv, hargs, (oneOf_eq_pass_iff hv hargs).1.2 hchosen⟩

/-- Of two neighbouring integers one that is no floating-point number passes for the other. -/
theorem oneOf_eq_pass_of_ne :
    let v : Json := .number (.int { val := 9007199254740993 })
    let args : Args := .list [.number (.int { val := 9007199254740992 })]
    oneOf (some v) args = .pass ∧ ¬Chosen (· = ·) v args := by
  intro v args
  refine ⟨by decide +kernel, ?_⟩
  rintro ⟨choice, hmem, hequal⟩
  obtain rfl := List.mem_singleton.1 hmem
  have hvalue : (9007199254740993 : ℚ) = 9007199254740992 := hequal
  norm_num at hvalue

/-- Among small integers the rule goes by exact numbers. -/
theorem oneOf_of_isSmall (hv : v.IsSmall) (hargs : ∀ choice ∈ args.values, choice.IsSmall) :
    (oneOf (some v) args = .pass ↔ Chosen (· = ·) v args) ∧
      (oneOf (some v) args = .fail ↔ ¬Chosen (· = ·) v args) := by
  have hargs' : ∀ choice ∈ args.values, choice.IsWordSized :=
    fun choice hmem => (hargs choice hmem).isWordSized
  have hchosen : Chosen Indistinct v args ↔ Chosen (· = ·) v args := by
    refine ⟨?_, Chosen.indistinct hv.isWordSized⟩
    rintro ⟨choice, hmem, hequal⟩
    exact ⟨choice, hmem, hequal.eq_of_isSmall hv (hargs choice hmem)⟩
  rw [oneOf_pass_iff hv.isWordSized hargs', oneOf_fail_iff hv.isWordSized hargs', hchosen]
  exact ⟨Iff.rfl, Iff.rfl⟩

end Rules

end FieldRules
