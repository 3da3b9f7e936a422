import FieldRules.Pattern.Basic
import FieldRules.Proofs.Pattern.Words

/-!
# Patterns for whole texts

A pattern that is anchored at both ends matches a text through the first way to match that takes the
whole of it (`TextRegex.first?_anchored`), and it matches at all if the expression between the
anchors accepts the text (`TextRegex.search_anchored`).
-/

set_option autoImplicit false

namespace FieldRules.Pattern

/-- The set of one character holds no other. -/
theorem CharSet.contains_single_iff (c d : Char) : (single c).contains d = true ↔ d = c := by
  have hmem : (single c).contains d = true ↔ c.toNat ≤ d.toNat ∧ d.toNat ≤ c.toNat := by
    simp [single, contains, Unicode.Ranges.contains]
  rw [hmem, ← le_antisymm_iff, eq_comm]
  exact Char.toNat_inj

/-- A range of characters holds those between its ends. -/
theorem CharSet.contains_range_iff (low high c : Char) :
    (range low high).contains c = true ↔ low ≤ c ∧ c ≤ high := by
  simp [range, contains, Unicode.Ranges.contains, Char.le_def, UInt32.le_iff_toNat_le]

namespace Regex

/-- A match of nothing, and then others. -/
theorem andThen_singleton (i : Nat) (f : Nat → List Found) : andThen [⟨i, []⟩] f = f i := by
  have hid : Found.append ⟨i, []⟩ = id := rfl
  simp [andThen, hid]

section Rows

variable {σ α : Type} (holds : σ → Char → Bool) (meets : α → Option Char → Option Char → Bool)
  (text : List Char)

/-! ## Rows -/

/-- A match of nothing after another adds nothing. -/
@[simp] theorem Found.append_nil (x : Found) : x.append ⟨x.stop, []⟩ = x := by
  rw [Found.append, List.append_nil]

/-- The first of a row and then the others. -/
theorem ways_seqAll_cons (r : Regex σ α) (rest : List (Regex σ α)) (i : Nat) :
    ways holds meets text (seqAll (r :: rest)) i =
      andThen (ways holds meets text r i) (ways holds meets text (seqAll rest)) := by
  cases rest with
  | nil => simp [seqAll, andThen, ways]
  | cons r' rest => rfl

/-- Of three in a row it does not matter which two go together. -/
theorem andThen_assoc (xs : List Found) (f g : Nat → List Found) :
    andThen (andThen xs f) g = andThen xs fun i => andThen (f i) g := by
  have happend (x y : Found) : (x.append y).append = x.append ∘ y.append :=
    funext fun z => by simp [Found.append, List.append_assoc]
  have hstop (x y : Found) : (x.append y).stop = y.stop := rfl
  simp only [andThen, List.flatMap_assoc, List.flatMap_map, List.map_flatMap, List.map_map, happend,
    hstop]

/-- A row and then another one. -/
theorem ways_seqAll_append (rs ss : List (Regex σ α)) (i : Nat) :
    ways holds meets text (seqAll (rs ++ ss)) i =
      andThen (ways holds meets text (seqAll rs) i) (ways holds meets text (seqAll ss)) := by
  induction rs generalizing i with
  | nil => exact (andThen_singleton i _).symm
  | cons r rest ih =>
    rw [List.cons_append, ways_seqAll_cons, ways_seqAll_cons, andThen_assoc, funext ih]

/-- A row between two others may be a part of its own. -/
theorem ways_seqAll_between (first last : Regex σ α) (rs : List (Regex σ α)) (i : Nat) :
    ways holds meets text (seqAll (first :: (rs ++ [last]))) i =
      ways holds meets text (seqAll [first, seqAll rs, last]) i := by
  have hrest : ways holds meets text (seqAll (rs ++ [last])) =
      ways holds meets text (seqAll [seqAll rs, last]) :=
    funext fun j => by rw [ways_seqAll_append, ways_seqAll_cons]
  rw [ways_seqAll_cons, ways_seqAll_cons, hrest]

end Rows

/-- Searches that agree on all elements find the same. -/
theorem findSome?_congr {α β : Type} {f g : α → Option β} {xs : List α}
    (h : ∀ x ∈ xs, f x = g x) : xs.findSome? f = xs.findSome? g := by
  induction xs with
  | nil => rfl
  | cons x rest ih =>
    obtain ⟨hx, hrest⟩ := List.forall_mem_cons.1 h
    rw [List.findSome?_cons, List.findSome?_cons, hx, ih hrest]

end Regex

/-! ## Anchors at both ends -/

/-- The expression that matches whole texts. -/
def TextRegex.anchored (r : TextRegex) : TextRegex :=
  .seqAll [.hold .textStart, r, .hold .textEnd]

open Regex

section Anchored

variable (r : TextRegex) (text : List Char)

/-- No match starts after the start of the text. -/
theorem ways_anchored_succ {i : Nat} (hi : i < text.length) :
    ways CharSet.contains Condition.meets text (TextRegex.anchored r) (i + 1) = [] := by
  have hstart : ways CharSet.contains Condition.meets text (.hold .textStart) (i + 1) = [] := by
    simp [ways, before?, Condition.meets, hi]
  rw [TextRegex.anchored, ways_seqAll_cons, hstart]
  rfl

/-- A match from the start of the text goes on to its end. -/
theorem head?_ways_anchored :
    (ways CharSet.contains Condition.meets text (TextRegex.anchored r) 0).head? =
      (ways CharSet.contains Condition.meets text r 0).find? (·.stop == text.length) := by
  have hstart : ways CharSet.contains Condition.meets text (.hold .textStart) 0 = [⟨0, []⟩] := rfl
  rw [TextRegex.anchored, ways_seqAll_cons, hstart, andThen_singleton, ways_seqAll_cons, andThen,
    List.head?_flatMap, ← List.findSome?_guard]
  apply findSome?_congr
  intro x hx
  have hxn := (advances_ways _ _ text r 0 (Nat.zero_le _) x hx).2
  rw [seqAll, ways]
  by_cases hend : x.stop = text.length
  · have happend : x.append ⟨text.length, []⟩ = x := by rw [← hend, Found.append_nil]
    simp [hend, happend, Condition.meets, Option.guard]
  · have hlt : x.stop < text.length := by omega
    simp [hend, hlt, Condition.meets, Option.guard]

/-- The preferred match of a whole text is the first way to match that ends with the text. -/
theorem TextRegex.first?_anchored :
    (locate (TextRegex.anchored r) text).first? text.length =
      (ways CharSet.contains Condition.meets text r 0).find? (·.stop == text.length) := by
  rw [locate, first?_locate, List.range_succ_eq_map, List.findSome?_cons, List.findSome?_map,
    head?_ways_anchored]
  have hlater : (List.range text.length).findSome?
      ((fun i => (ways CharSet.contains Condition.meets text (TextRegex.anchored r) i).head?) ∘
        Nat.succ) = none := by
    rw [List.findSome?_eq_none_iff]
    intro i hi
    rw [Function.comp_apply, ways_anchored_succ r text (List.mem_range.1 hi)]
    rfl
  rw [hlater]
  cases (ways CharSet.contains Condition.meets text r 0).find? (·.stop == text.length) <;> rfl

end Anchored

/-! ## Searching -/

/-- What one application keeps, applying a function until it is stable keeps. -/
theorem untilStable_induction {p : Positions → Prop} {f : Positions → Positions}
    (hf : ∀ x, p x → p (f x)) (fuel : Nat) {x : Positions} (hx : p x) :
    p (untilStable f fuel x) := by
  induction fuel generalizing x with
  | zero => exact hx
  | succ fuel ih =>
    rw [untilStable]
    split
    · exact hx
    · exact ih (hf x hx)

/-- No match starts after the end of the text. -/
theorem starts_lt (n : Nat) (r : Regex Positions Positions) {ends : Positions}
    (h : ends < 2 ^ (n + 1)) : starts n r ends < 2 ^ (n + 1) := by
  induction r generalizing ends with
  | empty => exact h
  | step s => exact Nat.and_le_left.trans_lt ((Nat.shiftRight_le ends 1).trans_lt h)
  | hold a => exact Nat.and_le_left.trans_lt h
  | seq a b iha ihb => exact iha (ihb h)
  | alt a b iha ihb => exact Nat.or_lt_two_pow (iha h) (ihb h)
  | repeated low high greedy r ih =>
    refine untilStable_induction (p := (· < 2 ^ (n + 1))) (fun x hx => ih hx) low ?_
    exact untilStable_induction (p := (· < 2 ^ (n + 1)))
      (fun x hx => Nat.or_lt_two_pow h (ih hx)) _ h
  | capture name r ih => exact ih h

/-- A search succeeds exactly if there is a way to match from some position. -/
theorem TextRegex.search_iff (r : TextRegex) (s : String) :
    TextRegex.search r s = true ↔
      ∃ i ≤ s.toList.length, ways CharSet.contains Condition.meets s.toList r i ≠ [] := by
  set text := s.toList
  have hstart : ∀ i ≤ text.length,
      ((starts text.length (locate r text) (Positions.upTo text.length)).testBit i = true ↔
        ways CharSet.contains Condition.meets text r i ≠ []) := by
    intro i hi
    rw [locate, reaches_starts_locate _ _ text r _ i hi, List.any_eq_true]
    constructor
    · rintro ⟨x, hx, -⟩
      exact List.ne_nil_of_mem hx
    · intro hne
      obtain ⟨x, hx⟩ := List.exists_mem_of_ne_nil _ hne
      exact ⟨x, hx, hits_upTo _ _ text r hi hx⟩
  have hsearch : TextRegex.search r s =
      (starts text.length (locate r text) (Positions.upTo text.length) != 0) := rfl
  rw [hsearch, bne_iff_ne]
  constructor
  · intro hne
    obtain ⟨i, hbit⟩ := Nat.exists_testBit_of_ne_zero hne
    have hi : i ≤ text.length := by
      by_contra hgt
      have hlt := starts_lt text.length (locate r text) (upTo_lt text.length)
      have hpow := Nat.pow_le_pow_right (n := 2) (by decide) (Nat.lt_of_not_le hgt)
      rw [Nat.testBit_lt_two_pow (hlt.trans_le hpow)] at hbit
      cases hbit
    exact ⟨i, hi, (hstart i hi).1 hbit⟩
  · rintro ⟨i, hi, hne⟩ hzero
    have hbit := (hstart i hi).2 hne
    rw [hzero, Nat.zero_testBit] at hbit
    cases hbit

/-- Expressions that match in the same ways are found in the same texts. -/
theorem TextRegex.search_congr {r r' : TextRegex} {s : String}
    (h : ∀ i, ways CharSet.contains Condition.meets s.toList r i =
      ways CharSet.contains Condition.meets s.toList r' i) :
    TextRegex.search r s = TextRegex.search r' s := by
  rw [Bool.eq_iff_iff, TextRegex.search_iff, TextRegex.search_iff]
  simp only [h]

/-- A text is accepted exactly if there is a way to match the whole of it. -/
theorem TextRegex.accepts_iff (r : TextRegex) (s : String) :
    TextRegex.accepts r s = true ↔
      ∃ x ∈ ways CharSet.contains Condition.meets s.toList r 0, x.stop = s.toList.length := by
  set text := s.toList with htext
  have hends (x : Found) : hits (1 <<< text.length) x = true ↔ x.stop = text.length := by
    simp [hits, Nat.one_shiftLeft, Nat.testBit_two_pow, eq_comm]
  rw [TextRegex.accepts, ← htext, matchesWhole, locate,
    reaches_starts_locate _ _ text r _ 0 (Nat.zero_le _), List.any_eq_true]
  exact exists_congr fun x => and_congr_right fun _ => hends x

/-- Between anchors an expression is found exactly in the texts that it accepts. -/
theorem TextRegex.search_anchored (r : TextRegex) (s : String) :
    TextRegex.search (TextRegex.anchored r) s = TextRegex.accepts r s := by
  rw [Bool.eq_iff_iff, TextRegex.search_iff, TextRegex.accepts_iff]
  set text := s.toList
  have hzero : ways CharSet.contains Condition.meets text (TextRegex.anchored r) 0 ≠ [] ↔
      ∃ x ∈ ways CharSet.contains Condition.meets text r 0, x.stop = text.length := by
    rw [← List.isSome_head?, head?_ways_anchored, List.find?_isSome]
    simp
  rw [← hzero]
  constructor
  · rintro ⟨i, hi, hne⟩
    cases i with
    | zero => exact hne
    | succ i => exact absurd (ways_anchored_succ r text hi) hne
  · intro hne
    exact ⟨0, Nat.zero_le _, hne⟩

/-! ## Words -/

/-- Whether a text is a word of an expression over characters. -/
def TextRegex.HasWord (r : TextRegex) (w : List Char) : Prop :=
  Regex.IsWord CharSet.contains r w

/-- The texts that are accepted are the words of the expression. -/
theorem TextRegex.accepts_iff_hasWord {r : TextRegex} (hr : r.isPlain = true) (s : String) :
    TextRegex.accepts r s = true ↔ TextRegex.HasWord r s.toList := by
  rw [TextRegex.accepts_iff]
  set text := s.toList
  constructor
  · rintro ⟨x, hx, hstop⟩
    have hword := isWord_of_mem_ways _ _ text hr (Nat.zero_le _) hx
    rwa [hstop, stretch, Nat.sub_zero, List.drop_zero, List.take_length] at hword
  · intro hword
    obtain ⟨x, hx, hstop⟩ := exists_mem_ways CharSet.contains Condition.meets text hr
      (Nat.zero_le _) (List.prefix_refl text) hword
    exact ⟨x, hx, by rw [hstop, Nat.zero_add]⟩

end FieldRules.Pattern
