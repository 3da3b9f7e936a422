import FieldRules.Proofs.Positions
import FieldRules.RuleSet.Basic
import Mathlib.Data.List.Perm.Subperm
import Mathlib.Data.Nat.Find
import Mathlib.Order.Bounds.Basic

/-!
# The key of a rule without arguments

`RuleSet.bareRule` looks for a number that is the key of no entry.  Among one number more than there
are entries some number is no key (`RuleSet.exists_isLeast_free`), and the search ends at the least
of them, with a bound on the candidates (`RuleSet.freeKeyFrom`) or without one (`RuleSet.Search`).
-/

set_option autoImplicit false

namespace FieldRules

namespace RuleSet

/-- A candidate is free exactly if its numeral is no key. -/
theorem all_key_ne_iff (entries : List RuleEntry) (n : Nat) :
    (entries.all fun e => e.key != Nat.repr n) = true ↔
      Text.numeral n ∉ entries.map RuleEntry.key := by
  simp [Text.numeral]

/-- The search from `i` on that tries one number after the other: it ends at the number `n`, the
last of `count` candidates. -/
inductive Search (entries : List RuleEntry) : (i count n : Nat) → Prop where
  | free {i : Nat} (hfree : Text.numeral i ∉ entries.map RuleEntry.key) : Search entries i 1 i
  | taken {i count n : Nat} (htaken : Text.numeral i ∈ entries.map RuleEntry.key)
    (hrest : Search entries (i + 1) count n) : Search entries i (count + 1) n

/-- A search ends at the first free number from its start on. -/
theorem search_iff {entries : List RuleEntry} {i count n : Nat} :
    Search entries i count n ↔ i ≤ n ∧ n + 1 = i + count ∧
      Text.numeral n ∉ entries.map RuleEntry.key ∧
      ∀ m, i ≤ m → m < n → Text.numeral m ∈ entries.map RuleEntry.key := by
  constructor
  · intro h
    induction h with
    | free hfree =>
      refine ⟨le_rfl, rfl, hfree, ?_⟩
      intro m hm hlt
      omega
    | taken htaken _ ih =>
      obtain ⟨hle, hcount, hfree, hleast⟩ := ih
      refine ⟨by omega, by omega, hfree, ?_⟩
      intro m hm hlt
      rcases Nat.eq_or_lt_of_le hm with rfl | hm
      · exact htaken
      · exact hleast m hm hlt
  · rintro ⟨hle, hcount, hfree, hleast⟩
    induction count generalizing i with
    | zero => omega
    | succ count ih =>
      rcases Nat.eq_or_lt_of_le hle with rfl | hlt
      · obtain rfl : count = 0 := by omega
        exact .free hfree
      · refine .taken (hleast i le_rfl hlt) (ih hlt (by omega) ?_)
        intro m hm hmn
        exact hleast m (by omega) hmn

/-- With a bound on the candidates a search is the same, as long as it ends within the bound. -/
theorem freeKeyFrom_eq_some_iff {entries : List RuleEntry} {fuel i : Nat} {key : String} :
    freeKeyFrom entries fuel i = some key ↔
      ∃ count n, Search entries i count n ∧ count ≤ fuel ∧ key = Text.numeral n := by
  induction fuel generalizing i with
  | zero =>
    refine iff_of_false (by simp [freeKeyFrom]) ?_
    rintro ⟨count, n, hsearch, hcount, -⟩
    cases hsearch <;> omega
  | succ fuel ih =>
    rw [freeKeyFrom]
    split
    · rename_i hfree
      rw [all_key_ne_iff] at hfree
      constructor
      · intro h
        exact ⟨1, i, .free hfree, by omega, (Option.some.inj h).symm⟩
      · rintro ⟨count, n, hsearch, -, rfl⟩
        cases hsearch with
        | free _ => rfl
        | taken htaken _ => exact absurd htaken hfree
    · rename_i htaken
      rw [all_key_ne_iff, not_not] at htaken
      rw [ih]
      constructor
      · rintro ⟨count, n, hsearch, hcount, hkey⟩
        exact ⟨count + 1, n, .taken htaken hsearch, by omega, hkey⟩
      · rintro ⟨count, n, hsearch, hcount, hkey⟩
        cases hsearch with
        | free hfree => exact absurd htaken hfree
        | taken _ hrest => exact ⟨_, n, hrest, by omega, hkey⟩

/-! ## The least free number -/

/-- The entries do not have one key more than there are entries. -/
theorem exists_numeral_notMem (entries : List RuleEntry) :
    ∃ n ≤ entries.length, Text.numeral n ∉ entries.map RuleEntry.key := by
  by_contra hnone
  have htaken : (List.range (entries.length + 1)).map Text.numeral ⊆
      entries.map RuleEntry.key := by
    intro key hkey
    obtain ⟨n, hn, rfl⟩ := List.mem_map.1 hkey
    rw [List.mem_range] at hn
    by_contra hfree
    exact hnone ⟨n, by omega, hfree⟩
  have hnodup : ((List.range (entries.length + 1)).map Text.numeral).Nodup :=
    List.Nodup.map Text.numeral_injective List.nodup_range
  have hlength := (List.subperm_of_subset hnodup htaken).length_le
  simp only [List.length_map, List.length_range] at hlength
  omega

/-- There is a least free number, and it is at most the number of entries. -/
theorem exists_isLeast_free (entries : List RuleEntry) :
    ∃ n ≤ entries.length, IsLeast {m | Text.numeral m ∉ entries.map RuleEntry.key} n := by
  obtain ⟨k, hk, hfree⟩ := exists_numeral_notMem entries
  have hsome : ∃ n, Text.numeral n ∉ entries.map RuleEntry.key := ⟨k, hfree⟩
  refine ⟨Nat.find hsome, (Nat.find_min' hsome hfree).trans hk, Nat.find_spec hsome, ?_⟩
  intro m hm
  exact Nat.find_min' hsome hm

section Least

variable {entries : List RuleEntry} {n : Nat}
  (hn : IsLeast {m | Text.numeral m ∉ entries.map RuleEntry.key} n)

include hn

/-- The search from zero on ends at the least free number, the last of as many candidates. -/
theorem search_zero_iff {count m : Nat} : Search entries 0 count m ↔ count = n + 1 ∧ m = n := by
  rw [search_iff]
  constructor
  · rintro ⟨-, hcount, hfree, hleast⟩
    have hle : n ≤ m := hn.2 hfree
    have hge : ¬n < m := fun hlt => hn.1 (hleast n (Nat.zero_le n) hlt)
    omega
  · rintro ⟨rfl, rfl⟩
    refine ⟨Nat.zero_le m, by omega, hn.1, ?_⟩
    intro k _ hk
    by_contra hfree
    exact absurd (hn.2 hfree) (Nat.not_le.2 hk)

/-- The search from zero finds the least free number, given as much fuel. -/
theorem freeKeyFrom_zero_eq (fuel : Nat) :
    freeKeyFrom entries fuel 0 = if n < fuel then some (Text.numeral n) else none := by
  apply Option.ext
  intro key
  rw [freeKeyFrom_eq_some_iff, Option.ite_none_right_eq_some]
  constructor
  · rintro ⟨count, m, hm, hcount, rfl⟩
    obtain ⟨rfl, rfl⟩ := (search_zero_iff hn).1 hm
    exact ⟨by omega, rfl⟩
  · rintro ⟨hlt, hkey⟩
    exact ⟨n + 1, n, (search_zero_iff hn).2 ⟨rfl, rfl⟩, hlt, (Option.some.inj hkey).symm⟩

/-- The key of a new entry is the least free number. -/
theorem freeKey_eq (hle : n ≤ entries.length) : freeKey entries = Text.numeral n := by
  rw [freeKey, freeKeyFrom_zero_eq hn, if_pos (by omega), Option.getD_some]

end Least

/-- The key of a new entry is not taken. -/
theorem freeKey_notMem (entries : List RuleEntry) :
    freeKey entries ∉ entries.map RuleEntry.key := by
  obtain ⟨n, hle, hn⟩ := exists_isLeast_free entries
  rw [freeKey_eq hn hle]
  exact hn.1

/-- A rule that is added under the free key keeps the keys distinct. -/
theorem nodup_keys_append_freeKey (rule : String) {entries : List RuleEntry}
    (h : (entries.map RuleEntry.key).Nodup) :
    ((entries ++ [RuleEntry.shorthand (freeKey entries) rule]).map RuleEntry.key).Nodup := by
  rw [List.map_append, List.nodup_append]
  refine ⟨h, by simp, ?_⟩
  intro a ha b hb hab
  rw [List.map_singleton, List.mem_singleton] at hb
  subst hb
  subst hab
  exact freeKey_notMem entries ha

/-- Gaps are filled, and only the numeral itself takes its number. -/
example : freeKey [.withArgs "0" .empty, .shorthand "2" "required", .shorthand "01" "string"] =
    "1" := by decide

end RuleSet

end FieldRules
