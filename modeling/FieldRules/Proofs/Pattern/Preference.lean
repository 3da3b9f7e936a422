import FieldRules.Pattern.Regex
import Mathlib.Data.List.Basic
import Mathlib.Data.List.Find
import Mathlib.Data.Nat.Bitwise
import Mathlib.Logic.Function.Iterate

/-!
# The order of preference

`Regex.ways` lists what an expression matches from a position of a text, in the order in which the
alternatives are tried: the first branch before the second, more copies of a greedy repetition
before fewer.  The matcher works on sets of positions instead and never lists anything.  Still the
positions that it finds are those from which there is a way to match
(`Regex.reaches_starts_locate`), and the match that it finds is the first of the ways
(`Regex.prefers_take?_locate`).
-/

set_option autoImplicit false

namespace FieldRules.Pattern

namespace Regex

/-! ## Ways to match -/

/-- Goes on from each match, in order. -/
def andThen (xs : List Found) (next : Nat → List Found) : List Found :=
  xs.flatMap fun x => (next x.stop).map x.append

/-- At most `fuel` copies that match something. -/
def moreWays (greedy : Bool) (copy : Nat → List Found) : (fuel : Nat) → Nat → List Found
  | 0, i => [⟨i, []⟩]
  | fuel + 1, i =>
    let again := andThen ((copy i).filter (i < ·.stop)) (moreWays greedy copy fuel)
    if greedy then again ++ [⟨i, []⟩] else ⟨i, []⟩ :: again

/-- A given number of copies, and what comes after them. -/
def exactWays (copy after : Nat → List Found) : (low : Nat) → Nat → List Found
  | 0, i => after i
  | low + 1, i => andThen (copy i) (exactWays copy after low)

/-- The character before a position. -/
def before? (text : List Char) : Nat → Option Char
  | 0 => none
  | i + 1 => text[i]?

section Ways

variable {σ α : Type} (holds : σ → Char → Bool) (meets : α → Option Char → Option Char → Bool)
  (text : List Char)

/-- The matches from a position of a text, in the order of preference.  From position `i` no more
than `text.length - i` copies can match something. -/
def ways : Regex σ α → Nat → List Found
  | .empty, i => [⟨i, []⟩]
  | .step s, i => if text[i]?.any (holds s) then [⟨i + 1, []⟩] else []
  | .hold a, i => if meets a (before? text i) text[i]? then [⟨i, []⟩] else []
  | .seq a b, i => andThen (ways a i) (ways b)
  | .alt a b, i => ways a i ++ ways b i
  | .repeated low high greedy r, i =>
    exactWays (ways r)
      (fun j => moreWays greedy (ways r) ((high.map (· - low)).getD (text.length - j)) j) low i
  | .capture name r, i =>
    (ways r i).map fun x => ⟨x.stop, x.captures ++ name.toList.map fun name => (name, i, x.stop)⟩

end Ways

/-! ## Matches go forward -/

/-- Whether all matches go forward and stay in a text of `n` characters. -/
def Advances (n : Nat) (f : Nat → List Found) : Prop :=
  ∀ i ≤ n, ∀ x ∈ f i, i ≤ x.stop ∧ x.stop ≤ n

/-- What goes on from matches is a match and then another one from where it ends. -/
theorem mem_andThen {xs : List Found} {next : Nat → List Found} {z : Found} :
    z ∈ andThen xs next ↔ ∃ x ∈ xs, ∃ y ∈ next x.stop, x.append y = z := by
  simp [andThen]

/-- A further copy is one that matches something, or there is none. -/
theorem mem_moreWays_succ_iff {greedy : Bool} {copy : Nat → List Found} {fuel i : Nat} {x : Found} :
    x ∈ moreWays greedy copy (fuel + 1) i ↔
      x ∈ andThen ((copy i).filter (i < ·.stop)) (moreWays greedy copy fuel) ∨ x = ⟨i, []⟩ := by
  cases greedy with
  | true => simp [moreWays]
  | false => simp [moreWays, or_comm]

/-- Going on from matches that go forward goes forward. -/
theorem Advances.andThen {n : Nat} {f next : Nat → List Found} (hf : Advances n f)
    (hnext : Advances n next) : Advances n fun i => andThen (f i) next := by
  intro i hi z hz
  obtain ⟨x, hx, y, hy, rfl⟩ := mem_andThen.1 hz
  obtain ⟨hix, hxn⟩ := hf i hi x hx
  obtain ⟨hxy, hyn⟩ := hnext x.stop hxn y hy
  exact ⟨hix.trans hxy, hyn⟩

/-- Further copies go forward if one copy does. -/
theorem Advances.moreWays {n : Nat} {copy : Nat → List Found} (h : Advances n copy) (greedy : Bool)
    (fuel : Nat) : Advances n (moreWays greedy copy fuel) := by
  induction fuel with
  | zero =>
    intro i hi x hx
    rw [List.mem_singleton.1 hx]
    exact ⟨le_rfl, hi⟩
  | succ fuel ih =>
    have hcopy : Advances n fun i => (copy i).filter (i < ·.stop) :=
      fun i hi x hx => h i hi x (List.mem_filter.1 hx).1
    intro i hi x hx
    rcases mem_moreWays_succ_iff.1 hx with hagain | rfl
    · exact hcopy.andThen ih i hi x hagain
    · exact ⟨le_rfl, hi⟩

/-- A number of copies goes forward if one copy does, and what comes after them. -/
theorem Advances.exactWays {n : Nat} {copy after : Nat → List Found} (hcopy : Advances n copy)
    (hafter : Advances n after) (low : Nat) : Advances n (exactWays copy after low) := by
  induction low with
  | zero => exact hafter
  | succ low ih => exact hcopy.andThen ih

/-- The matches of an expression go forward. -/
theorem advances_ways {σ α : Type} (holds : σ → Char → Bool)
    (meets : α → Option Char → Option Char → Bool) (text : List Char) (r : Regex σ α) :
    Advances text.length (ways holds meets text r) := by
  induction r with
  | empty =>
    intro i hi x hx
    rw [List.mem_singleton.1 hx]
    exact ⟨le_rfl, hi⟩
  | step s =>
    intro i hi x hx
    rw [ways] at hx
    split at hx
    · rename_i hchar
      rw [List.mem_singleton.1 hx]
      obtain ⟨c, hc, -⟩ := (Option.any_eq_true _ _).1 hchar
      exact ⟨Nat.le_succ i, (List.getElem?_eq_some_iff.1 hc).1⟩
    · cases hx
  | hold a =>
    intro i hi x hx
    rw [ways] at hx
    split at hx
    · rw [List.mem_singleton.1 hx]
      exact ⟨le_rfl, hi⟩
    · cases hx
  | seq a b iha ihb => exact iha.andThen ihb
  | alt a b iha ihb =>
    intro i hi x hx
    rcases List.mem_append.1 hx with hx | hx
    · exact iha i hi x hx
    · exact ihb i hi x hx
  | repeated low high greedy r ih =>
    have hmore : Advances text.length fun j => moreWays greedy (ways holds meets text r)
        ((high.map (· - low)).getD (text.length - j)) j :=
      fun i hi x hx => ih.moreWays greedy _ i hi x hx
    exact ih.exactWays hmore low
  | capture name r ih =>
    intro i hi x hx
    obtain ⟨y, hy, rfl⟩ := List.mem_map.1 hx
    exact ih i hi y hy

/-- From position `i` no more than `n - i` copies match something. -/
theorem moreWays_congr {n : Nat} {copy : Nat → List Found} (h : Advances n copy) (greedy : Bool)
    {fuel fuel' i : Nat} (hi : i ≤ n) (hfuel : n - i ≤ fuel) (hfuel' : n - i ≤ fuel') :
    moreWays greedy copy fuel i = moreWays greedy copy fuel' i := by
  -- At the end of the text no copy matches anything, so nothing is tried again.
  have hend (fuel : Nat) : moreWays greedy copy fuel n = [⟨n, []⟩] := by
    cases fuel with
    | zero => rfl
    | succ fuel =>
      have hnone : (copy n).filter (n < ·.stop) = [] := by
        rw [List.filter_eq_nil_iff]
        intro x hx
        have hle := (h n le_rfl x hx).2
        simpa using hle
      simp [moreWays, hnone, andThen]
  induction fuel generalizing fuel' i with
  | zero =>
    obtain rfl : i = n := by omega
    rw [hend, hend]
  | succ fuel ih =>
    cases fuel' with
    | zero =>
      obtain rfl : i = n := by omega
      rw [hend, hend]
    | succ fuel' =>
      have hagain : andThen ((copy i).filter (i < ·.stop)) (moreWays greedy copy fuel) =
          andThen ((copy i).filter (i < ·.stop)) (moreWays greedy copy fuel') := by
        unfold andThen
        apply List.flatMap_congr
        intro x hx
        obtain ⟨hmem, hlt⟩ := List.mem_filter.1 hx
        have hle := (h i hi x hmem).2
        have hlt' : i < x.stop := by simpa using hlt
        have hrest : moreWays greedy copy fuel x.stop = moreWays greedy copy fuel' x.stop :=
          ih hle (by omega) (by omega)
        rw [hrest]
      simp only [moreWays, hagain]

/-! ## Reaching an end -/

/-- Whether a match ends at one of some positions. -/
def hits (ends : Positions) (x : Found) : Bool :=
  ends.testBit x.stop

/-- A match and then another one end where the other one does. -/
@[simp] theorem hits_append (ends : Positions) (x y : Found) :
    hits ends (x.append y) = hits ends y := rfl

/-- One of the matches that follow each other ends well exactly if a first one does that has a
following one that ends well. -/
theorem any_andThen (ends : Positions) (xs : List Found) (next : Nat → List Found) :
    (andThen xs next).any (hits ends) = xs.any fun x => (next x.stop).any (hits ends) := by
  induction xs with
  | nil => rfl
  | cons x rest ih =>
    have hcons : andThen (x :: rest) next = (next x.stop).map x.append ++ andThen rest next := rfl
    rw [hcons, List.any_append, List.any_map, ih, List.any_cons]
    rfl

/-- The preferred one of the matches that follow each other begins with the preferred first one that
has a following one that ends well. -/
theorem find?_andThen (ends : Positions) (xs : List Found) (next : Nat → List Found) :
    (andThen xs next).find? (hits ends) =
      (xs.find? fun x => (next x.stop).any (hits ends)).bind fun x =>
        ((next x.stop).find? (hits ends)).map x.append := by
  induction xs with
  | nil => rfl
  | cons x rest ih =>
    have hcons : andThen (x :: rest) next = (next x.stop).map x.append ++ andThen rest next := rfl
    have hmap : ((next x.stop).map x.append).find? (hits ends) =
        ((next x.stop).find? (hits ends)).map x.append := by
      rw [List.find?_map]
      rfl
    rw [hcons, List.find?_append, hmap, ih, List.find?_cons]
    cases hnext : (next x.stop).find? (hits ends) with
    | some y =>
      have hany : (next x.stop).any (hits ends) = true :=
        List.any_eq_true.2 ⟨y, List.mem_of_find?_eq_some hnext, List.find?_some hnext⟩
      simp [hany, hnext]
    | none =>
      have hany : (next x.stop).any (hits ends) = false := by
        rw [List.any_eq_false]
        exact fun y hy => List.find?_eq_none.1 hnext y hy
      simp [hany]

/-- Taking the preferred first match that leads to an end, and then the preferred one that follows
it, takes the preferred one of the matches that follow each other. -/
theorem bind_eq_find?_andThen {ends : Positions} {xs : List Found} {next : Nat → List Found}
    {first : Option Found} {takeNext : Nat → Option Found}
    (hfirst : first = xs.find? fun x => (next x.stop).any (hits ends))
    (hnext : ∀ x ∈ xs, takeNext x.stop = (next x.stop).find? (hits ends)) :
    (do
      let x ← first
      let y ← takeNext x.stop
      return x.append y) = (andThen xs next).find? (hits ends) := by
  rw [hfirst, find?_andThen]
  cases hx : xs.find? fun x => (next x.stop).any (hits ends) with
  | none => rfl
  | some x => simp [hnext x (List.mem_of_find?_eq_some hx), Option.map_eq_bind]

/-- The same test of each match is the same test of all. -/
theorem any_eq_of_forall_mem {xs : List Found} {p q : Found → Bool} (h : ∀ x ∈ xs, p x = q x) :
    xs.any p = xs.any q := by
  rw [Bool.eq_iff_iff, List.any_eq_true, List.any_eq_true]
  exact exists_congr fun x => and_congr_right fun hx => by rw [h x hx]

/-- Whether a function on sets of positions gives those from which there is a way. -/
def Reaches (n : Nat) (starts : Positions → Positions) (f : Nat → List Found) : Prop :=
  ∀ ends, ∀ i ≤ n, (starts ends).testBit i = (f i).any (hits ends)

/-- Whether a function picks the first way. -/
def Prefers (n : Nat) (take : Positions → Nat → Option Found) (f : Nat → List Found) : Prop :=
  ∀ ends, ∀ i ≤ n, take ends i = (f i).find? (hits ends)

/-- The empty match is found if its position is one of the ends. -/
theorem stay?_eq_find? (ends : Positions) (i : Nat) :
    stay? ends i = [(⟨i, []⟩ : Found)].find? (hits ends) := by
  simp [stay?, hits, List.find?_cons]
  cases ends.testBit i <;> rfl

/-- Applying a function until its value is stable is applying it as often. -/
theorem untilStable_eq_iterate (f : Positions → Positions) (fuel : Nat) (x : Positions) :
    untilStable f fuel x = f^[fuel] x := by
  induction fuel generalizing x with
  | zero => rfl
  | succ fuel ih =>
    rw [untilStable, Function.iterate_succ_apply]
    split
    · rename_i hstable
      rw [hstable, Function.iterate_fixed hstable]
    · exact ih (f x)

/-! ## Repetitions -/

/-- A further copy, or none. -/
theorem any_moreWays_succ (ends : Positions) (greedy : Bool) (copy : Nat → List Found)
    (fuel i : Nat) :
    (moreWays greedy copy (fuel + 1) i).any (hits ends) =
      (ends.testBit i || (copy i).any fun x =>
        decide (i < x.stop) && (moreWays greedy copy fuel x.stop).any (hits ends)) := by
  have hagain := any_andThen ends ((copy i).filter (i < ·.stop)) (moreWays greedy copy fuel)
  rw [List.any_filter] at hagain
  cases greedy with
  | true => simp [moreWays, hagain, hits, Bool.or_comm]
  | false => simp [moreWays, hagain, hits]

/-- What a number of copies reaches, one more copy at most reaches too. -/
theorem any_moreWays_mono {ends : Positions} {greedy : Bool} {copy : Nat → List Found}
    {fuel i : Nat} (h : (moreWays greedy copy fuel i).any (hits ends) = true) :
    (moreWays greedy copy (fuel + 1) i).any (hits ends) = true := by
  induction fuel generalizing i with
  | zero =>
    have hend : ends.testBit i = true := by simpa [moreWays, hits] using h
    simp [any_moreWays_succ, hend]
  | succ fuel ih =>
    rw [any_moreWays_succ, Bool.or_eq_true, List.any_eq_true] at h ⊢
    refine h.imp id ?_
    rintro ⟨x, hx, hrest⟩
    rw [Bool.and_eq_true] at hrest
    exact ⟨x, hx, by rw [Bool.and_eq_true]; exact ⟨hrest.1, ih hrest.2⟩⟩

/-- The positions from which some copies reach an end are those that the rounds of `untilStable`
collect; a copy that matches nothing adds none. -/
theorem testBit_untilStable {n : Nat} {starts : Positions → Positions} {copy : Nat → List Found}
    (hreaches : Reaches n starts copy) (hadvances : Advances n copy) (greedy : Bool)
    (ends : Positions) (fuel : Nat) {i : Nat} (hi : i ≤ n) :
    (untilStable (fun y => ends ||| starts y) fuel ends).testBit i =
      (moreWays greedy copy fuel i).any (hits ends) := by
  rw [untilStable_eq_iterate]
  induction fuel generalizing i with
  | zero => simp [moreWays, hits]
  | succ fuel ih =>
    set found := (fun y => ends ||| starts y)^[fuel] ends with hfound
    rw [Function.iterate_succ_apply', ← hfound, Nat.testBit_or, hreaches found i hi,
      any_moreWays_succ, Bool.eq_iff_iff, Bool.or_eq_true, Bool.or_eq_true, List.any_eq_true,
      List.any_eq_true]
    constructor
    · rintro (hend | ⟨x, hx, hrest⟩)
      · exact Or.inl hend
      · obtain ⟨hix, hxn⟩ := hadvances i hi x hx
        have hmore : (moreWays greedy copy fuel x.stop).any (hits ends) = true := by
          rw [← ih hxn]
          exact hrest
        rcases hix.eq_or_lt with heq | hlt
        · -- The copy matches nothing, so fewer copies do as well.
          rw [← heq] at hmore
          have hmono := any_moreWays_mono hmore
          rwa [any_moreWays_succ, Bool.or_eq_true, List.any_eq_true] at hmono
        · exact Or.inr ⟨x, hx, by simp [hlt, hmore]⟩
    · rintro (hend | ⟨x, hx, hrest⟩)
      · exact Or.inl hend
      · rw [Bool.and_eq_true] at hrest
        obtain ⟨-, hxn⟩ := hadvances i hi x hx
        refine Or.inr ⟨x, hx, ?_⟩
        rw [hits, ih hxn]
        exact hrest.2

/-- The positions from which some copies reach an end. -/
theorem testBit_someStarts {n : Nat} {starts : Positions → Positions} {copy : Nat → List Found}
    (hreaches : Reaches n starts copy) (hadvances : Advances n copy) (greedy : Bool)
    (high : Option Nat) (ends : Positions) {i : Nat} (hi : i ≤ n) :
    (someStarts n high starts ends).testBit i =
      (moreWays greedy copy (high.getD (n - i)) i).any (hits ends) := by
  rw [someStarts, testBit_untilStable hreaches hadvances greedy ends _ hi]
  cases high with
  | some high => rfl
  | none =>
    have hle : n - i ≤ n + 1 := by omega
    rw [Option.getD_none, Option.getD_none, moreWays_congr hadvances greedy hi hle le_rfl]

/-- The positions from which a number of copies reaches what comes after them. -/
theorem testBit_untilStable_exactWays {n : Nat} {starts : Positions → Positions}
    {copy after : Nat → List Found} (hreaches : Reaches n starts copy)
    (hadvances : Advances n copy) {ends afterStarts : Positions}
    (hafter : ∀ i ≤ n, afterStarts.testBit i = (after i).any (hits ends)) (low : Nat) {i : Nat}
    (hi : i ≤ n) :
    (untilStable starts low afterStarts).testBit i =
      (exactWays copy after low i).any (hits ends) := by
  rw [untilStable_eq_iterate]
  induction low generalizing i with
  | zero => exact hafter i hi
  | succ low ih =>
    rw [Function.iterate_succ_apply', hreaches _ i hi, exactWays, any_andThen]
    exact any_eq_of_forall_mem fun x hx => ih (hadvances i hi x hx).2

/-- The members after a position are the greater ones. -/
theorem testBit_after (i : Nat) (s : Positions) (j : Nat) :
    (Positions.after i s).testBit j = (decide (i < j) && s.testBit j) := by
  rw [Positions.after, Nat.testBit_shiftLeft, Nat.testBit_shiftRight]
  by_cases h : i < j
  · have hj : i + 1 + (j - (i + 1)) = j := by omega
    have hle : i + 1 ≤ j := h
    simp [h, hle, hj]
  · have hle : ¬i + 1 ≤ j := h
    simp [h, hle]

/-- Some copies that match something are found in the order of preference. -/
theorem takeSome?_eq_find? {n : Nat} {take : Positions → Nat → Option Found}
    {starts : Positions → Positions} {copy : Nat → List Found} (hprefers : Prefers n take copy)
    (hreaches : Reaches n starts copy) (hadvances : Advances n copy) (high : Option Nat)
    (greedy : Bool) (ends : Positions) {fuel i : Nat} (hi : i ≤ n)
    (hfuel : high = none → n - i ≤ fuel) :
    takeSome? n high greedy take starts ends fuel i =
      (moreWays greedy copy fuel i).find? (hits ends) := by
  induction fuel generalizing i with
  | zero => exact stay?_eq_find? ends i
  | succ fuel ih =>
    set rest := someStarts n (high.map fun _ => fuel) starts ends with hrest
    -- What is left to do from the end of a copy: the bound holds it, or the end of the text.
    have hbit (x : Found) (hx : x ∈ copy i) (hlt : i < x.stop) :
        rest.testBit x.stop = (moreWays greedy copy fuel x.stop).any (hits ends) := by
      have hxn := (hadvances i hi x hx).2
      rw [hrest, testBit_someStarts hreaches hadvances greedy _ ends hxn]
      cases high with
      | some high => rfl
      | none =>
        have hle := hfuel rfl
        rw [Option.map_none, Option.getD_none,
          moreWays_congr hadvances greedy hxn le_rfl (show n - x.stop ≤ fuel by omega)]
    have hfirst : take (Positions.after i rest) i =
        ((copy i).filter (i < ·.stop)).find? fun x =>
          (moreWays greedy copy fuel x.stop).any (hits ends) := by
      rw [hprefers _ i hi, List.find?_filter]
      apply List.find?_congr
      intro x hx
      rw [hits, testBit_after, Bool.decide_and, Bool.decide_eq_true]
      by_cases hlt : i < x.stop
      · rw [hbit x hx hlt, Bool.decide_eq_true]
      · simp [hlt]
    have hagain : (do
        let x ← take (Positions.after i rest) i
        let y ← takeSome? n high greedy take starts ends fuel x.stop
        return x.append y : Option Found) =
        (andThen ((copy i).filter (i < ·.stop)) (moreWays greedy copy fuel)).find?
          (hits ends) := by
      refine bind_eq_find?_andThen hfirst fun x hx => ?_
      obtain ⟨hmem, hlt⟩ := List.mem_filter.1 hx
      have hlt' : i < x.stop := by simpa using hlt
      refine ih (hadvances i hi x hmem).2 fun hnone => ?_
      have hle := hfuel hnone
      omega
    cases greedy with
    | true =>
      rw [takeSome?, moreWays, if_pos rfl, if_pos rfl, List.find?_append, ← stay?_eq_find?,
        ← hagain]
      exact Option.orElse_eq_or
    | false =>
      rw [takeSome?, moreWays, if_neg Bool.false_ne_true, if_neg Bool.false_ne_true,
        ← List.singleton_append, List.find?_append, ← stay?_eq_find?, ← hagain]
      exact Option.orElse_eq_or

/-- Copies up to a bound, or to the end of the text, are found in the order of preference. -/
theorem takeSome?_eq_find?_of_bound {n : Nat} {take : Positions → Nat → Option Found}
    {starts : Positions → Positions} {copy : Nat → List Found} (hprefers : Prefers n take copy)
    (hreaches : Reaches n starts copy) (hadvances : Advances n copy) (bound : Option Nat)
    (greedy : Bool) (ends : Positions) {i : Nat} (hi : i ≤ n) :
    takeSome? n bound greedy take starts ends (bound.getD (n + 1)) i =
      (moreWays greedy copy (bound.getD (n - i)) i).find? (hits ends) := by
  cases bound with
  | some bound => exact takeSome?_eq_find? hprefers hreaches hadvances _ greedy ends hi (by simp)
  | none =>
    -- No more copies match something than there are characters left, so more fuel changes nothing.
    have hle : n - i ≤ n + 1 := by omega
    rw [Option.getD_none, Option.getD_none, moreWays_congr hadvances greedy hi le_rfl hle]
    exact takeSome?_eq_find? hprefers hreaches hadvances none greedy ends hi fun _ => hle

/-- A number of copies, and what comes after them, is found in the order of preference. -/
theorem takeExactly?_eq_find? {n : Nat} {take : Positions → Nat → Option Found}
    {starts : Positions → Positions} {copy after : Nat → List Found}
    {takeAfter : Nat → Option Found} {ends afterStarts : Positions}
    (hprefers : Prefers n take copy) (hreaches : Reaches n starts copy)
    (hadvances : Advances n copy)
    (hafter : ∀ i ≤ n, afterStarts.testBit i = (after i).any (hits ends))
    (htakeAfter : ∀ i ≤ n, takeAfter i = (after i).find? (hits ends)) (low : Nat) {i : Nat}
    (hi : i ≤ n) :
    takeExactly? take starts takeAfter afterStarts low i =
      (exactWays copy after low i).find? (hits ends) := by
  induction low generalizing i with
  | zero => exact htakeAfter i hi
  | succ low ih =>
    have hfirst : take (untilStable starts low afterStarts) i =
        (copy i).find? fun x => (exactWays copy after low x.stop).any (hits ends) := by
      rw [hprefers _ i hi]
      apply List.find?_congr
      intro x hx
      exact testBit_untilStable_exactWays hreaches hadvances hafter low (hadvances i hi x hx).2
    rw [takeExactly?, exactWays]
    exact bind_eq_find?_andThen hfirst fun x hx => ih (hadvances i hi x hx).2

/-! ## Expressions -/

/-- A test result put below the bits of a number. -/
theorem testBit_two_mul_add (x : Nat) (b : Bool) (i : Nat) :
    (2 * x + if b then 1 else 0).testBit i = if i = 0 then b else x.testBit (i - 1) := by
  cases i with
  | zero => cases b <;> simp
  | succ i =>
    have hhalf : (2 * x + if b then 1 else 0) / 2 = x := by
      split <;> omega
    rw [Nat.testBit_succ, hhalf]
    simp

/-- The positions of some characters are those at which one of them stands. -/
theorem testBit_charPositions (p : Char → Bool) (text : List Char) (i : Nat) :
    (charPositions p text).testBit i = text[i]?.any p := by
  induction text generalizing i with
  | nil => simp [charPositions]
  | cons c rest ih =>
    rw [charPositions, testBit_two_mul_add]
    cases i with
    | zero => simp
    | succ i => simp [ih]

/-- The positions between some neighbours are those that have such neighbours. -/
theorem testBit_gapPositions (p : Option Char → Option Char → Bool) (before : Option Char)
    (text : List Char) {i : Nat} (hi : i ≤ text.length) :
    (gapPositions p before text).testBit i =
      p (if i = 0 then before else text[i - 1]?) text[i]? := by
  induction text generalizing before i with
  | nil =>
    obtain rfl : i = 0 := by simpa using hi
    cases h : p before none <;> simp [gapPositions, h]
  | cons c rest ih =>
    rw [gapPositions, testBit_two_mul_add]
    cases i with
    | zero => simp
    | succ i =>
      have hle : i ≤ rest.length := by simpa using hi
      rw [if_neg (Nat.succ_ne_zero i), Nat.add_sub_cancel, ih (some c) hle]
      cases i <;> simp

section Located

variable {σ α : Type} (holds : σ → Char → Bool) (meets : α → Option Char → Option Char → Bool)
  (text : List Char)

/-- A condition holds at the positions at which the neighbours meet it. -/
theorem testBit_gapPositions_none (a : α) {i : Nat} (hi : i ≤ text.length) :
    (gapPositions (meets a) none text).testBit i = meets a (before? text i) text[i]? := by
  rw [testBit_gapPositions _ _ _ hi]
  cases i <;> rfl

/-- The positions that the matcher finds are those from which there is a way to match. -/
theorem reaches_starts_locate (r : Regex σ α) :
    Reaches text.length (starts text.length (r.locate holds meets text))
      (ways holds meets text r) := by
  induction r with
  | empty =>
    intro ends i _
    simp [locate, map, starts, ways, hits]
  | step s =>
    intro ends i _
    simp only [locate, map, starts, ways, Nat.testBit_and, Nat.testBit_shiftRight,
      testBit_charPositions]
    cases text[i]?.any (holds s) <;> simp [hits, Nat.add_comm]
  | hold a =>
    intro ends i hi
    simp only [locate, map, starts, ways, Nat.testBit_and,
      testBit_gapPositions_none meets text a hi]
    cases meets a (before? text i) text[i]? <;> simp [hits]
  | seq a b iha ihb =>
    intro ends i hi
    -- The first may end wherever the second may start.
    have hnext : ∀ x ∈ ways holds meets text a i,
        hits (starts text.length (b.locate holds meets text) ends) x =
          (ways holds meets text b x.stop).any (hits ends) :=
      fun x hx => ihb ends x.stop (advances_ways holds meets text a i hi x hx).2
    rw [ways, any_andThen, ← any_eq_of_forall_mem hnext]
    exact iha (starts text.length (b.locate holds meets text) ends) i hi
  | alt a b iha ihb =>
    intro ends i hi
    rw [ways, List.any_append, ← iha ends i hi, ← ihb ends i hi]
    exact Nat.testBit_or _ _ i
  | repeated low high greedy r ih =>
    intro ends i hi
    exact testBit_untilStable_exactWays ih (advances_ways holds meets text r)
      (fun j hj => testBit_someStarts ih (advances_ways holds meets text r) greedy _ ends hj) low hi
  | capture name r ih =>
    intro ends i hi
    rw [ways, List.any_map]
    exact ih ends i hi

/-- The match that is found is the first of the ways to match. -/
theorem prefers_take?_locate (r : Regex σ α) :
    Prefers text.length (take? text.length (r.locate holds meets text))
      (ways holds meets text r) := by
  induction r with
  | empty =>
    intro ends i _
    exact stay?_eq_find? ends i
  | step s =>
    intro ends i _
    simp only [locate, map, take?, ways, testBit_charPositions, stay?_eq_find?]
    cases text[i]?.any (holds s) <;> rfl
  | hold a =>
    intro ends i hi
    simp only [locate, map, take?, ways, testBit_gapPositions_none meets text a hi, stay?_eq_find?]
    cases meets a (before? text i) text[i]? <;> rfl
  | seq a b iha ihb =>
    intro ends i hi
    have hfirst : take? text.length (a.locate holds meets text)
        (starts text.length (b.locate holds meets text) ends) i =
        (ways holds meets text a i).find? fun x =>
          (ways holds meets text b x.stop).any (hits ends) := by
      rw [iha _ i hi]
      apply List.find?_congr
      intro x hx
      have hxn := (advances_ways holds meets text a i hi x hx).2
      exact reaches_starts_locate holds meets text b ends x.stop hxn
    rw [ways]
    exact bind_eq_find?_andThen hfirst fun x hx =>
      ihb ends x.stop (advances_ways holds meets text a i hi x hx).2
  | alt a b iha ihb =>
    intro ends i hi
    rw [ways, List.find?_append, ← iha ends i hi, ← ihb ends i hi]
    exact Option.orElse_eq_or
  | repeated low high greedy r ih =>
    intro ends i hi
    have hreaches := reaches_starts_locate holds meets text r
    have hadvances := advances_ways holds meets text r
    exact takeExactly?_eq_find? ih hreaches hadvances
      (fun j hj => testBit_someStarts hreaches hadvances greedy _ ends hj)
      (fun j hj => takeSome?_eq_find?_of_bound ih hreaches hadvances _ greedy ends hj) low hi
  | capture name r ih =>
    intro ends i hi
    have hcapture : take? text.length ((Regex.capture name r).locate holds meets text) ends i =
        (take? text.length (r.locate holds meets text) ends i).map fun x =>
          ⟨x.stop, x.captures ++ name.toList.map fun name => (name, i, x.stop)⟩ := by
      simp [locate, map, take?, Option.map_eq_bind]
    rw [hcapture, ways, List.find?_map, ih ends i hi]
    rfl

/-- The positions of a text are below the number of all of them. -/
theorem upTo_lt (n : Nat) : Positions.upTo n < 2 ^ (n + 1) := by
  rw [Positions.upTo, Nat.one_shiftLeft]
  exact Nat.sub_lt (Nat.two_pow_pos _) Nat.one_pos

/-- Every way to match ends somewhere in the text. -/
theorem hits_upTo (r : Regex σ α) {i : Nat} (hi : i ≤ text.length) {x : Found}
    (hx : x ∈ ways holds meets text r i) : hits (Positions.upTo text.length) x = true := by
  have hxn := (advances_ways holds meets text r i hi x hx).2
  simp only [hits, Positions.upTo, Nat.one_shiftLeft, Nat.testBit_two_pow_sub_one,
    decide_eq_true_eq]
  omega

/-- Finding the first place that has a result, and then the result, is finding the first result. -/
theorem bind_find?_eq_findSome? {p : Nat → Bool} {f g : Nat → Option Found}
    {positions : List Nat} (hp : ∀ i ∈ positions, p i = (g i).isSome)
    (hf : ∀ i ∈ positions, f i = g i) :
    (positions.find? p).bind f = positions.findSome? g := by
  induction positions with
  | nil => rfl
  | cons i rest ih =>
    rw [List.forall_mem_cons] at hp hf
    rw [List.find?_cons, List.findSome?_cons, hp.1]
    cases hg : g i with
    | some x => simp [hf.1, hg]
    | none => exact ih hp.2 hf.2

/-- Of the matches that start first the preferred one is found. -/
theorem first?_locate (r : Regex σ α) :
    (r.locate holds meets text).first? text.length =
      (List.range (text.length + 1)).findSome? fun i => (ways holds meets text r i).head? := by
  set ends := Positions.upTo text.length with hends
  -- Every match ends in the text, so the first one that does is the first one.
  have hhead : ∀ i ≤ text.length,
      take? text.length (r.locate holds meets text) ends i =
        (ways holds meets text r i).head? := by
    intro i hi
    rw [prefers_take?_locate holds meets text r ends i hi]
    cases hways : ways holds meets text r i with
    | nil => rfl
    | cons x rest =>
      have hx : hits ends x = true := hits_upTo holds meets text r hi (by simp [hways])
      simp [hx]
  have hstart : ∀ i ≤ text.length,
      (starts text.length (r.locate holds meets text) ends).testBit i =
        ((ways holds meets text r i).head?).isSome := by
    intro i hi
    rw [reaches_starts_locate holds meets text r ends i hi]
    cases hways : ways holds meets text r i with
    | nil => rfl
    | cons x rest =>
      have hx : hits ends x = true := hits_upTo holds meets text r hi (by simp [hways])
      simp [hx]
  have hfirst : (r.locate holds meets text).first? text.length =
      ((List.range (text.length + 1)).find? fun i =>
          (starts text.length (r.locate holds meets text) ends).testBit i).bind fun i =>
        take? text.length (r.locate holds meets text) ends i := by
    rw [first?, ← hends]
    cases (List.range (text.length + 1)).find? fun i =>
      (starts text.length (r.locate holds meets text) ends).testBit i <;> rfl
  have hle {i : Nat} (hi : i ∈ List.range (text.length + 1)) : i ≤ text.length :=
    Nat.le_of_lt_succ (List.mem_range.1 hi)
  rw [hfirst]
  exact bind_find?_eq_findSome? (fun i hi => hstart i (hle hi)) fun i hi => hhead i (hle hi)

end Located

end Regex

end FieldRules.Pattern
