import FieldRules.Proofs.Pattern.Whole
import FieldRules.Text.Digits
import Mathlib.Data.List.Induction

/-!
# Numbers in patterns

A number can be written with a fixed count of digits, zeros before it (`Text.padded`).  Patterns for
such numbers are put together from sets of digits: `TextRegex.Writes` says which numbers a pattern
stands for.
-/

set_option autoImplicit false

namespace FieldRules

namespace Text

/-- The last digits of a number, with zeros before them if it has fewer. -/
def padded : (width : Nat) → Nat → List Char
  | 0, _ => []
  | width + 1, n => padded width (n / 10) ++ [(n % 10).digitChar]

/-- Two digits are the tens and the ones. -/
theorem padded_two (n : Nat) :
    padded 2 n = [(n / 10 % 10).digitChar, (n % 10).digitChar] :=
  rfl

/-- No digit of a number that is not too large is left out. -/
theorem numeralValue_padded {width n : Nat} (h : n < 10 ^ width) :
    numeralValue (padded width n) = n := by
  induction width generalizing n with
  | zero =>
    obtain rfl : n = 0 := Nat.lt_one_iff.1 h
    rfl
  | succ width ih =>
    have htens : n / 10 < 10 ^ width := by
      rw [Nat.pow_succ] at h
      omega
    have hdigit : n % 10 < 10 := Nat.mod_lt n (by decide)
    have hvalue := ih htens
    unfold numeralValue at hvalue ⊢
    rw [padded, Nat.ofDigitChars_append, hvalue, Nat.ofDigitChars_cons, Nat.ofDigitChars_nil,
      Nat.toNat_digitChar_of_lt_ten hdigit]
    have hzero : '0'.toNat = 48 := rfl
    omega

/-- Each row of digits writes a number. -/
theorem exists_map_digitChar_eq_padded (digits : List Nat) (h : ∀ d ∈ digits, d < 10) :
    ∃ n < 10 ^ digits.length, digits.map Nat.digitChar = padded digits.length n := by
  induction digits using List.reverseRecOn with
  | nil => exact ⟨0, Nat.one_pos, rfl⟩
  | append_singleton digits d ih =>
    obtain ⟨hdigits, hd⟩ := List.forall_mem_append.1 h
    have hd := hd d List.mem_cons_self
    obtain ⟨n, hn, hpadded⟩ := ih hdigits
    have hlength : (digits ++ [d]).length = digits.length + 1 := List.length_append
    rw [hlength, Nat.pow_succ]
    refine ⟨10 * n + d, by omega, ?_⟩
    have htens : (10 * n + d) / 10 = n := by omega
    have hunits : (10 * n + d) % 10 = d := by omega
    rw [padded, htens, hunits, List.map_append, hpadded]
    rfl

/-- The digits of a number. -/
theorem exists_padded_eq_map_digitChar (width n : Nat) :
    ∃ digits : List Nat, digits.length = width ∧ (∀ d ∈ digits, d < 10) ∧
      padded width n = digits.map Nat.digitChar := by
  induction width generalizing n with
  | zero => exact ⟨[], rfl, by simp, rfl⟩
  | succ width ih =>
    obtain ⟨digits, rfl, hdigits, hpadded⟩ := ih (n / 10)
    refine ⟨digits ++ [n % 10], List.length_append, ?_, ?_⟩
    · rw [List.forall_mem_append]
      exact ⟨hdigits, by simp [Nat.mod_lt]⟩
    · rw [padded, hpadded, List.map_append]
      rfl

end Text

namespace Pattern

/-! ## Sets of digits -/

/-- A set that holds the decimal digits from one to another and nothing else. -/
structure CharSet.HoldsDigits (s : CharSet) (low high : Nat) : Prop where
  lt_ten : high < 10
  contains_iff : ∀ c, s.contains c = true ↔ ∃ d, (low ≤ d ∧ d ≤ high) ∧ c = d.digitChar

namespace CharSet

/-- The range from one digit to another holds the digits between them. -/
theorem holdsDigits_range (low high : Nat) (hlow : low < 10) (hhigh : high < 10) :
    HoldsDigits (.range low.digitChar high.digitChar) low high := by
  refine ⟨hhigh, fun c => ?_⟩
  rw [contains_range_iff, Char.le_def, Char.le_def, UInt32.le_iff_toNat_le, UInt32.le_iff_toNat_le,
    Char.toNat_val, Char.toNat_val, Char.toNat_val, Nat.toNat_digitChar_of_lt_ten hlow,
    Nat.toNat_digitChar_of_lt_ten hhigh]
  constructor
  · rintro ⟨hge, hle⟩
    refine ⟨c.toNat - 48, by omega, ?_⟩
    rw [← Char.toNat_inj, Nat.toNat_digitChar_of_lt_ten (by omega)]
    omega
  · rintro ⟨d, hd, rfl⟩
    rw [Nat.toNat_digitChar_of_lt_ten (by omega)]
    omega

/-- All digits are held. -/
theorem holdsDigits_any : HoldsDigits (.range '0' '9') 0 9 :=
  holdsDigits_range 0 9 (by decide) (by decide)

/-- The set of one digit holds just it. -/
theorem holdsDigits_single (d : Nat) (hd : d < 10) : HoldsDigits (.single d.digitChar) d d := by
  refine ⟨hd, fun c => ?_⟩
  rw [contains_single_iff]
  constructor
  · rintro rfl
    exact ⟨d, ⟨le_rfl, le_rfl⟩, rfl⟩
  · rintro ⟨e, ⟨hge, hle⟩, rfl⟩
    rw [le_antisymm hle hge]

/-- A digit and the next. -/
theorem holdsDigits_next (d : Nat) (hd : d + 1 < 10) :
    HoldsDigits (.unions [.single d.digitChar, .single (d + 1).digitChar]) d (d + 1) := by
  refine ⟨hd, fun c => ?_⟩
  have hunion : contains (.unions [.single d.digitChar, .single (d + 1).digitChar]) c =
      (contains (.single d.digitChar) c || contains (.single (d + 1).digitChar) c) := rfl
  rw [hunion, Bool.or_eq_true, contains_single_iff, contains_single_iff]
  constructor
  · rintro (rfl | rfl)
    · exact ⟨d, by omega, rfl⟩
    · exact ⟨d + 1, by omega, rfl⟩
  · rintro ⟨e, he, rfl⟩
    obtain rfl | rfl : e = d ∨ e = d + 1 := by omega
    · exact Or.inl rfl
    · exact Or.inr rfl

end CharSet

/-! ## Numbers -/

namespace TextRegex

/-- Whether an expression stands for some numbers, written with a count of digits. -/
def Writes (r : TextRegex) (width : Nat) (p : Nat → Prop) : Prop :=
  ∀ w, r.HasWord w ↔ ∃ n, p n ∧ w = Text.padded width n

/-- Which numbers an expression stands for may be said otherwise. -/
theorem Writes.congr {r : TextRegex} {width : Nat} {p q : Nat → Prop} (h : Writes r width p)
    (hpq : ∀ n, p n ↔ q n) : Writes r width q := by
  intro w
  rw [h w]
  exact exists_congr fun n => and_congr_left' (hpq n)

/-- A choice stands for the numbers of both branches. -/
theorem Writes.alt {r r' : TextRegex} {width : Nat} {p q : Nat → Prop} (hr : Writes r width p)
    (hr' : Writes r' width q) : Writes (.alt r r') width fun n => p n ∨ q n := by
  intro w
  have halt : HasWord (.alt r r') w ↔ HasWord r w ∨ HasWord r' w := Iff.rfl
  rw [halt, hr w, hr' w, ← exists_or]
  exact exists_congr fun n => or_and_right.symm

/-- Two sets of digits, one for the tens and one for the units. -/
theorem writes_pair {tens units : CharSet} {a b c d : Nat} (htens : tens.HoldsDigits a b)
    (hunits : units.HoldsDigits c d) :
    Writes (.seqAll [.step tens, .step units]) 2 fun n =>
      (a ≤ n / 10 ∧ n / 10 ≤ b) ∧ c ≤ n % 10 ∧ n % 10 ≤ d := by
  have hb := htens.lt_ten
  have hd := hunits.lt_ten
  intro w
  constructor
  · rintro ⟨_, _, rfl, ⟨x, rfl, hx⟩, y, rfl, hy⟩
    obtain ⟨m, hm, rfl⟩ := (htens.contains_iff x).1 hx
    obtain ⟨n, hn, rfl⟩ := (hunits.contains_iff y).1 hy
    have hdiv : (10 * m + n) / 10 = m := by omega
    have hmod : (10 * m + n) % 10 = n := by omega
    have htop : m % 10 = m := by omega
    refine ⟨10 * m + n, by omega, ?_⟩
    rw [Text.padded_two, hdiv, hmod, htop]
    rfl
  · rintro ⟨n, ⟨hm, hn⟩, rfl⟩
    have htop : n / 10 % 10 = n / 10 := by omega
    rw [Text.padded_two, htop]
    exact ⟨[_], [_], rfl, ⟨_, rfl, (htens.contains_iff _).2 ⟨n / 10, hm, rfl⟩⟩, _, rfl,
      (hunits.contains_iff _).2 ⟨n % 10, hn, rfl⟩⟩

/-- A number of digits of any kind. -/
theorem writes_repeated {s : CharSet} (hs : s.HoldsDigits 0 9) (width : Nat) (greedy : Bool) :
    Writes (.repeated width (some width) greedy (.step s)) width (· < 10 ^ width) := by
  have hdigit (u : List Char) : HasWord (.step s) u ↔ ∃ d : Nat, d < 10 ∧ u = [d.digitChar] := by
    constructor
    · rintro ⟨c, rfl, hc⟩
      obtain ⟨d, hd, rfl⟩ := (hs.contains_iff c).1 hc
      exact ⟨d, by omega, rfl⟩
    · rintro ⟨d, hd, rfl⟩
      exact ⟨_, rfl, (hs.contains_iff _).2 ⟨d, by omega, rfl⟩⟩
  have hrow (digits : List Nat) :
      digits.flatMap (fun d => [d.digitChar]) = digits.map Nat.digitChar :=
    List.flatMap_pure_eq_map Nat.digitChar digits
  intro w
  constructor
  · rintro ⟨k, hlow, hhigh, hcopies⟩
    obtain rfl : k = width := le_antisymm (hhigh width rfl) hlow
    obtain ⟨digits, rfl, hdigits, rfl⟩ := (Regex.copies_iff_flatMap hdigit).1 hcopies
    obtain ⟨n, hn, hpadded⟩ := Text.exists_map_digitChar_eq_padded digits hdigits
    exact ⟨n, hn, (hrow digits).trans hpadded⟩
  · rintro ⟨n, -, rfl⟩
    obtain ⟨digits, hlength, hdigits, hpadded⟩ := Text.exists_padded_eq_map_digitChar width n
    refine ⟨width, le_rfl, by simp, (Regex.copies_iff_flatMap hdigit).2 ?_⟩
    exact ⟨digits, hlength, hdigits, hpadded.trans (hrow digits).symm⟩

end TextRegex

end Pattern

end FieldRules
