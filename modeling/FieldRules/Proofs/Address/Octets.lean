import FieldRules.Proofs.Address.Groups
import FieldRules.Proofs.Pattern.Digits
import FieldRules.Proofs.Positions

/-!
# Dotted quads

An IPv4 address is the decimals of four numbers from 0 to 255 with points between them
(`Address.hasWord_ipv4`).
-/

set_option autoImplicit false

namespace FieldRules.Address

open Pattern (TextRegex CharSet Regex)
open Text (toList_numeral_of_lt_ten toList_numeral_ten_mul_add)

/-! ## Digits -/

/-- The words of a range of decimal digits. -/
theorem hasWord_oneOf_digitChar (low high : Nat) (hlow : low < 10) (hhigh : high < 10)
    (w : List Char) :
    TextRegex.HasWord (oneOf low.digitChar high.digitChar) w ↔
      ∃ d, (low ≤ d ∧ d ≤ high) ∧ w = [d.digitChar] := by
  have hdigits := CharSet.holdsDigits_range low high hlow hhigh
  constructor
  · rintro ⟨c, rfl, hc⟩
    obtain ⟨d, hd, rfl⟩ := (hdigits.contains_iff c).1 hc
    exact ⟨d, hd, rfl⟩
  · rintro ⟨d, hd, rfl⟩
    exact ⟨d.digitChar, rfl, (hdigits.contains_iff _).2 ⟨d, hd, rfl⟩⟩

/-! ## Octets -/

/-- Whether a text is the decimal of a number from 0 to 255, without leading zeros. -/
def IsOctet (w : List Char) : Prop :=
  ∃ n ≤ 255, w = (Text.numeral n).toList

/-- The tens of a number below 250, if there are any. -/
theorem hasWord_tens (w : List Char) :
    TextRegex.HasWord (choice
        [.seq (char '2') (oneOf '0' '4'), .seq (char '1') (oneOf '0' '9'), oneOf '1' '9']) w ↔
      ∃ m, (1 ≤ m ∧ m ≤ 24) ∧ w = (Text.numeral m).toList := by
  have hupToFour := hasWord_oneOf_digitChar 0 4 (by decide) (by decide)
  have hupToNine := hasWord_oneOf_digitChar 0 9 (by decide) (by decide)
  have hfromOne := hasWord_oneOf_digitChar 1 9 (by decide) (by decide)
  have htwenty (d : Nat) (hd : d < 10) : (Text.numeral (20 + d)).toList = ['2', d.digitChar] :=
    toList_numeral_ten_mul_add (m := 2) (by decide) hd
  have hten (d : Nat) (hd : d < 10) : (Text.numeral (10 + d)).toList = ['1', d.digitChar] :=
    toList_numeral_ten_mul_add (m := 1) (by decide) hd
  rw [hasWord_choice]
  simp only [List.exists_mem_cons_iff, List.not_mem_nil, false_and, exists_false, or_false]
  simp only [hasWord_seq, hasWord_char]
  constructor
  · rintro (⟨_, v, rfl, rfl, hv⟩ | ⟨_, v, rfl, rfl, hv⟩ | hw)
    · obtain ⟨d, hd, rfl⟩ := (hupToFour v).1 hv
      exact ⟨20 + d, by omega, (htwenty d (by omega)).symm⟩
    · obtain ⟨d, hd, rfl⟩ := (hupToNine v).1 hv
      exact ⟨10 + d, by omega, (hten d (by omega)).symm⟩
    · obtain ⟨d, hd, rfl⟩ := (hfromOne w).1 hw
      exact ⟨d, by omega, (toList_numeral_of_lt_ten (by omega)).symm⟩
  · rintro ⟨m, hm, rfl⟩
    have hcases : m < 10 ∨ (10 ≤ m ∧ m < 20) ∨ 20 ≤ m := by omega
    rcases hcases with hlt | ⟨hge, hlt⟩ | hge
    · rw [toList_numeral_of_lt_ten hlt]
      exact Or.inr (Or.inr ((hfromOne _).2 ⟨m, by omega, rfl⟩))
    · obtain ⟨d, rfl⟩ := Nat.exists_eq_add_of_le hge
      rw [hten d (by omega)]
      exact Or.inr (Or.inl ⟨['1'], _, rfl, rfl, (hupToNine _).2 ⟨d, by omega, rfl⟩⟩)
    · obtain ⟨d, rfl⟩ := Nat.exists_eq_add_of_le hge
      rw [htwenty d (by omega)]
      exact Or.inl ⟨['2'], _, rfl, rfl, (hupToFour _).2 ⟨d, by omega, rfl⟩⟩

/-- The words of an octet. -/
theorem hasWord_octet (w : List Char) : TextRegex.HasWord octet w ↔ IsOctet w := by
  have hhigh (d : Nat) (hd : d < 10) : (Text.numeral (250 + d)).toList = ['2', '5', d.digitChar] :=
    toList_numeral_ten_mul_add (m := 25) (by decide) hd
  have hupToFive := hasWord_oneOf_digitChar 0 5 (by decide) (by decide)
  have hupToNine := hasWord_oneOf_digitChar 0 9 (by decide) (by decide)
  rw [octet, hasWord_choice]
  simp only [List.exists_mem_cons_iff, List.not_mem_nil, false_and, exists_false, or_false]
  simp only [Regex.seqAll, hasWord_seq, hasWord_copies_zero_one, hasWord_tens]
  constructor
  · rintro (⟨_, _, rfl, hu, _, v, rfl, hv, hd⟩ | ⟨_, v, rfl, htens, hv⟩)
    · rw [(hasWord_char _ _).1 hu, (hasWord_char _ _).1 hv]
      obtain ⟨d, hd, rfl⟩ := (hupToFive v).1 hd
      exact ⟨250 + d, by omega, (hhigh d (by omega)).symm⟩
    · obtain ⟨d, hd, rfl⟩ := (hupToNine v).1 hv
      rcases htens with rfl | ⟨m, hm, rfl⟩
      · exact ⟨d, by omega, (toList_numeral_of_lt_ten (by omega)).symm⟩
      · exact ⟨10 * m + d, by omega, (toList_numeral_ten_mul_add (by omega) (by omega)).symm⟩
  · rintro ⟨n, hn, rfl⟩
    have hcases : n < 10 ∨ (10 ≤ n ∧ n < 250) ∨ 250 ≤ n := by omega
    rcases hcases with hlt | ⟨hge, hlt⟩ | hge
    · rw [toList_numeral_of_lt_ten hlt]
      exact Or.inr ⟨[], _, rfl, Or.inl rfl, (hupToNine _).2 ⟨n, by omega, rfl⟩⟩
    · have hn : n = 10 * (n / 10) + n % 10 := by omega
      rw [hn, toList_numeral_ten_mul_add (by omega) (by omega)]
      exact Or.inr ⟨_, _, rfl, Or.inr ⟨n / 10, by omega, rfl⟩,
        (hupToNine _).2 ⟨n % 10, by omega, rfl⟩⟩
    · obtain ⟨d, rfl⟩ := Nat.exists_eq_add_of_le hge
      rw [hhigh d (by omega)]
      exact Or.inl ⟨['2'], _, rfl, (hasWord_char _ _).2 rfl, ['5'], _, rfl,
        (hasWord_char _ _).2 rfl, (hupToFive _).2 ⟨d, by omega, rfl⟩⟩

/-! ## Four octets -/

/-- Whether a text is four octets with points between them. -/
def IsDottedQuad (w : List Char) : Prop :=
  ∃ a b c d, (IsOctet a ∧ IsOctet b ∧ IsOctet c ∧ IsOctet d) ∧
    w = a ++ '.' :: b ++ '.' :: c ++ '.' :: d

/-- The words of an IPv4 address. -/
theorem hasWord_ipv4 (w : List Char) : TextRegex.HasWord ipv4 w ↔ IsDottedQuad w := by
  have hpoint (u : List Char) :
      TextRegex.HasWord (.seq octet (char '.')) u ↔ ∃ a, IsOctet a ∧ u = a ++ ['.'] := by
    rw [hasWord_seq]
    constructor
    · rintro ⟨a, v, rfl, ha, hv⟩
      rw [(hasWord_char _ _).1 hv]
      exact ⟨a, (hasWord_octet a).1 ha, rfl⟩
    · rintro ⟨a, ha, rfl⟩
      exact ⟨a, _, rfl, (hasWord_octet a).2 ha, (hasWord_char _ _).2 rfl⟩
  rw [ipv4, ipv4Parts, seqAll_two, hasWord_seq]
  constructor
  · rintro ⟨u, d, rfl, hu, hd⟩
    obtain ⟨octets, hlength, hoctets, rfl⟩ := (hasWord_copies hpoint 3 3 u).1 hu
    obtain ⟨a, b, c, rfl⟩ := List.length_eq_three.1 (le_antisymm hlength.2 hlength.1)
    simp only [List.forall_mem_cons] at hoctets
    obtain ⟨ha, hb, hc, -⟩ := hoctets
    exact ⟨a, b, c, d, ⟨ha, hb, hc, (hasWord_octet d).1 hd⟩, by simp⟩
  · rintro ⟨a, b, c, d, ⟨ha, hb, hc, hd⟩, rfl⟩
    refine ⟨[a, b, c].flatMap (· ++ ['.']), d, by simp, ?_, (hasWord_octet d).2 hd⟩
    exact (hasWord_copies hpoint 3 3 _).2 ⟨[a, b, c], by simp, by simp [ha, hb, hc], rfl⟩

/-- The words of an IPv4 address as a part of others. -/
theorem hasWord_ipv4Parts (w : List Char) :
    TextRegex.HasWord (.seqAll ipv4Parts) w ↔ IsDottedQuad w :=
  hasWord_ipv4 w

/-- A dotted quad has a point in it. -/
theorem IsDottedQuad.point_mem {w : List Char} (h : IsDottedQuad w) : '.' ∈ w := by
  obtain ⟨a, b, c, d, -, rfl⟩ := h
  simp

end FieldRules.Address
