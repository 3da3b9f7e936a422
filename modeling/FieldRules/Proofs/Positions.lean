import FieldRules.Json.Basic
import FieldRules.Proofs.Entries
import FieldRules.Text.Digits
import Mathlib.Data.List.Induction
import Mathlib.Data.List.Nodup

/-!
# Numerals as keys

The elements of a list are entries under the numerals of their positions.  Different numbers have
different numerals (`Text.numeral_injective`), so these entries have distinct keys
(`Json.nodup_keys_indexed`), and a numeral is read as the number it was written for
(`Text.index?_numeral`).  The other texts that denote a position are those with a zero or a plus
sign before a numeral (`Text.eq_numeral_of_index?`); but for these, a key reads the same in a list
and in its entries (`Json.get?_indexed_eq_bind`).
-/

set_option autoImplicit false

namespace FieldRules

namespace Text

/-- The characters of a numeral are the decimal digits. -/
theorem toList_numeral (n : Nat) : (numeral n).toList = Nat.toDigits 10 n :=
  Nat.toList_repr

/-- The numeral of a number below ten is one digit. -/
theorem toList_numeral_of_lt_ten {n : Nat} (h : n < 10) : (numeral n).toList = [n.digitChar] := by
  rw [toList_numeral, Nat.toDigits_of_lt_base h]

/-- The numeral of a greater number is that of its tens and one digit. -/
theorem toList_numeral_ten_mul_add {m d : Nat} (hm : 0 < m) (hd : d < 10) :
    (numeral (10 * m + d)).toList = (numeral m).toList ++ [d.digitChar] := by
  rw [toList_numeral, toList_numeral, ← Nat.toDigits_append_toDigits (by decide) hm hd,
    Nat.toDigits_of_lt_base hd]

/-- Reading the numeral of a number gives the number back. -/
theorem numeralValue_numeral (n : Nat) : numeralValue (numeral n).toList = n := by
  rw [toList_numeral]
  exact Nat.ofDigitChars_ten_toDigits

/-- Different numbers have different numerals. -/
theorem numeral_injective : Function.Injective numeral := by
  intro m n h
  rw [← numeralValue_numeral m, h, numeralValue_numeral]

/-- A numeral has only digits. -/
theorem isDigit_of_mem_numeral {n : Nat} {c : Char} (h : c ∈ (numeral n).toList) :
    c.isDigit = true := by
  rw [toList_numeral] at h
  exact Nat.isDigit_of_mem_toDigits (by decide) (by decide) h

/-- A numeral is one. -/
theorem isNumeral_numeral (n : Nat) : isNumeral (numeral n).toList = true := by
  simp only [isNumeral, Bool.and_eq_true, Bool.not_eq_true', List.all_eq_true]
  refine ⟨?_, fun c hc => isDigit_of_mem_numeral hc⟩
  simp [toList_numeral]

/-- A numeral denotes its number as a list position, as long as a word holds the number. -/
theorem index?_numeral_eq (n : Nat) :
    index? (numeral n) = if n < wordBound then some n else none := by
  have hdigits := isNumeral_numeral n
  have hvalue := numeralValue_numeral n
  -- A numeral begins with a digit, so no sign is taken off it.
  have hsign : ∀ rest, (numeral n).toList ≠ '+' :: rest := by
    intro rest hrest
    rw [hrest] at hdigits
    simp [isNumeral] at hdigits
  unfold index?
  split
  · rename_i rest hrest
    exact absurd hrest (hsign rest)
  · simp [hdigits, hvalue]

/-- The numeral of a number that a word holds is read as that number. -/
theorem index?_numeral {n : Nat} (h : n < wordBound) : index? (numeral n) = some n := by
  rw [index?_numeral_eq, if_pos h]

/-- A numeral is read as no other number than its own. -/
theorem eq_of_index?_numeral {m n : Nat} (h : index? (numeral m) = some n) : n = m := by
  rw [index?_numeral_eq, Option.ite_none_right_eq_some] at h
  exact (Option.some.inj h.2).symm

/-- What a text denotes as a list position is a number that a word holds. -/
theorem lt_wordBound_of_index? {s : String} {n : Nat} (h : index? s = some n) : n < wordBound := by
  simp only [index?] at h
  split at h
  all_goals
    rw [Option.ite_none_right_eq_some] at h
    obtain ⟨⟨-, hlt⟩, hn⟩ := h
    rwa [Option.some.inj hn] at hlt

/-! ## Texts that denote a position -/

/-- Whether a text is a numeral with a zero or a plus sign before it. -/
def IsPrefixedNumeral (s : String) : Prop :=
  ∃ digits, isNumeral digits = true ∧ (s.toList = '0' :: digits ∨ s.toList = '+' :: digits)

/-- A digit is that of a number below ten. -/
theorem exists_digitChar_eq {c : Char} (h : c.isDigit = true) : ∃ d < 10, c = d.digitChar := by
  simp only [Char.isDigit, Bool.and_eq_true, decide_eq_true_eq, UInt32.le_iff_toNat_le] at h
  have hle : 48 ≤ c.toNat := h.1
  have hlt : c.toNat < 58 := Nat.lt_succ_of_le h.2
  refine ⟨c.toNat - 48, by omega, ?_⟩
  apply Char.toNat_inj.1
  rw [Nat.toNat_digitChar_of_lt_ten (by omega)]
  omega

/-- One more digit at the end adds the ones. -/
theorem numeralValue_concat (digits : List Char) {d : Nat} (hd : d < 10) :
    numeralValue (digits ++ [d.digitChar]) = 10 * numeralValue digits + d := by
  unfold numeralValue
  rw [Nat.ofDigitChars_append, Nat.ofDigitChars_cons_digitChar_of_lt_ten hd, Nat.ofDigitChars_nil]

/-- Digits are the numeral of the number they denote, unless there is a zero before others. -/
theorem toList_numeral_numeralValue {digits : List Char} (h : isNumeral digits = true)
    (hzero : ∀ rest, digits = '0' :: rest → rest = []) :
    (numeral (numeralValue digits)).toList = digits := by
  simp only [isNumeral, Bool.and_eq_true, Bool.not_eq_true', List.all_eq_true] at h
  obtain ⟨hne, hdigits⟩ := h
  induction digits using List.reverseRecOn with
  | nil => cases hne
  | append_singleton digits c ih =>
    obtain ⟨d, hd, rfl⟩ := exists_digitChar_eq (hdigits c (by simp))
    rw [numeralValue_concat digits hd]
    cases digits with
    | nil =>
      show (numeral (10 * 0 + d)).toList = [d.digitChar]
      rw [Nat.mul_zero, Nat.zero_add, toList_numeral_of_lt_ten hd]
    | cons first more =>
      have hfirst : ∀ rest, first :: more = '0' :: rest → rest = [] := by
        rintro rest heq
        have hend := hzero (rest ++ [d.digitChar]) (by rw [heq, List.cons_append])
        exact absurd hend (by simp)
      have htens := ih hfirst rfl fun c hc => hdigits c (List.mem_append_left _ hc)
      have hpos : 0 < numeralValue (first :: more) := by
        -- zero is the only number whose numeral begins with a zero
        apply Nat.pos_of_ne_zero
        intro hvalue
        rw [hvalue] at htens
        obtain ⟨rfl, rfl⟩ := List.cons.inj (show '0' :: [] = first :: more from htens)
        exact absurd (hzero [d.digitChar] rfl) (by simp)
      rw [toList_numeral_ten_mul_add hpos hd, htens]

/-- A text that denotes a position is its numeral, unless a zero or a plus sign stands before it. -/
theorem eq_numeral_of_index? {s : String} {n : Nat} (h : index? s = some n)
    (hs : ¬IsPrefixedNumeral s) : s = numeral n := by
  simp only [index?] at h
  split at h
  · rename_i digits hplus
    rw [Option.ite_none_right_eq_some] at h
    exact absurd ⟨digits, h.1.1, Or.inr hplus⟩ hs
  · rw [Option.ite_none_right_eq_some] at h
    obtain ⟨⟨hnumeral, -⟩, hn⟩ := h
    obtain rfl := Option.some.inj hn
    apply String.toList_inj.1
    refine (toList_numeral_numeralValue hnumeral ?_).symm
    intro rest hzero
    by_contra hrest
    refine hs ⟨rest, ?_, Or.inl hzero⟩
    simpa [isNumeral, hzero, hrest] using hnumeral

/-- A text with any other character than digits and a plus sign denotes no position. -/
theorem index?_eq_none_of_mem {s : String} {c : Char} (hmem : c ∈ s.toList)
    (hdigit : c.isDigit = false) (hsign : c ≠ '+') : index? s = none := by
  have hnumeral (digits : List Char) (hc : c ∈ digits) : ¬isNumeral digits = true := by
    simp only [isNumeral, Bool.and_eq_true, List.all_eq_true, not_and, not_forall]
    exact fun _ => ⟨c, hc, by simp [hdigit]⟩
  simp only [index?]
  split
  · rename_i digits hplus
    rw [hplus, List.mem_cons] at hmem
    rw [if_neg fun h => hnumeral digits (hmem.resolve_left hsign) h.1]
  · rw [if_neg fun h => hnumeral s.toList hmem h.1]

end Text

namespace Json

/-- The positions of a list are its keys. -/
theorem keys_indexed (items : List Json) :
    Entries.keys (indexed items) = (List.range items.length).map Text.numeral := by
  simp only [Entries.keys, indexed, Entries.ofList, List.map_map]
  have h : (Prod.fst ∘ fun p : Json × Nat => (Nat.repr p.2, p.1)) = Text.numeral ∘ Prod.snd := rfl
  rw [h, ← List.map_map, List.zipIdx_map_snd, List.range_eq_range']

/-- The elements of a list are the values under its positions. -/
theorem values_indexed (items : List Json) : Entries.values (indexed items) = items := by
  simp only [Entries.values, indexed, Entries.ofList, List.map_map]
  exact List.zipIdx_map_fst 0 items

/-- The positions of a list are distinct. -/
theorem nodup_keys_indexed (items : List Json) : (Entries.keys (indexed items)).Nodup := by
  rw [keys_indexed]
  exact List.Nodup.map Text.numeral_injective List.nodup_range

/-- A numeral is a key exactly up to the length of the list. -/
theorem numeral_mem_keys_indexed_iff (n : Nat) (items : List Json) :
    Text.numeral n ∈ Entries.keys (indexed items) ↔ n < items.length := by
  rw [keys_indexed, List.mem_map_of_injective Text.numeral_injective, List.mem_range]

/-- A key reads the element at the position that it is the numeral of. -/
theorem get?_indexed_eq_some_iff (key : String) (items : List Json) (item : Json) :
    Entries.get? key (indexed items) = some item ↔
      ∃ i, items[i]? = some item ∧ key = Text.numeral i := by
  constructor
  · intro h
    obtain ⟨⟨v, i⟩, hmem, heq⟩ := List.mem_map.1 (Entries.mem_of_get? h)
    obtain ⟨rfl, rfl⟩ := Prod.mk.inj heq
    exact ⟨i, List.mk_mem_zipIdx_iff_getElem?.1 hmem, rfl⟩
  · rintro ⟨i, hi, rfl⟩
    apply Entries.get?_of_mem (nodup_keys_indexed items)
    exact List.mem_map.2 ⟨(item, i), List.mk_mem_zipIdx_iff_getElem?.2 hi, rfl⟩

/-- In a list that a word can count, a key that is the numeral of the position it denotes, if it
denotes one, reads what it reads in the entries. -/
theorem get?_indexed_eq_bind {key : String} (hkey : ∀ n, Text.index? key = some n →
    key = Text.numeral n) {items : List Json} (hlength : items.length ≤ Text.wordBound) :
    Entries.get? key (indexed items) = (Text.index? key).bind (items[·]?) := by
  apply Option.ext
  intro item
  rw [get?_indexed_eq_some_iff, Option.bind_eq_some_iff]
  constructor
  · rintro ⟨n, hn, rfl⟩
    have hlt : n < items.length := (List.getElem?_eq_some_iff.1 hn).1
    exact ⟨n, Text.index?_numeral (Nat.lt_of_lt_of_le hlt hlength), hn⟩
  · rintro ⟨n, hindex, hn⟩
    exact ⟨n, hn, hkey n hindex⟩

/-- Each item has a position. -/
theorem length_indexed (items : List Json) : (indexed items).length = items.length := by
  simp [indexed, Entries.ofList]

/-- An element that is added at the end has the number of those before it as its key. -/
theorem indexed_append_singleton (items : List Json) (item : Json) :
    indexed (items ++ [item]) = indexed items ++ [(Text.numeral items.length, item)] := by
  simp [indexed, Entries.ofList, List.zipIdx_append, Text.numeral]

end Json

end FieldRules
