import FieldRules.Proofs.Pattern.Preference

/-!
# The words of an expression

`Regex.IsWord` says which texts an expression stands for, without regard to any order.  An
expression without conditions on positions and without captures matches a stretch of a text exactly
if the stretch is one of its words (`Regex.isWord_of_mem_ways`, `Regex.exists_mem_ways`), what it
matches depends on what is left of the text alone (`Regex.ways_add`), and it notes nothing
(`Regex.notesNothing_ways`).  Characters that no step of an expression tells apart may stand for
each other in its words (`Regex.isWord_map_iff`), and the words of an expression of fixed width have
the same length (`Regex.length_of_isWord`).
-/

set_option autoImplicit false

namespace FieldRules.Pattern

namespace Regex

variable {σ α : Type}

/-- Whether a text is a number of copies in a row. -/
def Copies (p : List Char → Prop) : Nat → List Char → Prop
  | 0, w => w = []
  | k + 1, w => ∃ u v, w = u ++ v ∧ p u ∧ Copies p k v

/-- Whether a text is a word of an expression, whatever it says of positions. -/
def IsWord (holds : σ → Char → Bool) : Regex σ α → List Char → Prop
  | .empty, w => w = []
  | .step s, w => ∃ c, w = [c] ∧ holds s c = true
  | .hold _, w => w = []
  | .seq a b, w => ∃ u v, w = u ++ v ∧ IsWord holds a u ∧ IsWord holds b v
  | .alt a b, w => IsWord holds a w ∨ IsWord holds b w
  | .repeated low high _ r, w =>
    ∃ k, low ≤ k ∧ (∀ h ∈ high, k ≤ h) ∧ Copies (IsWord holds r) k w
  | .capture _ r, w => IsWord holds r w

/-- Whether an expression has no conditions on positions and no captures, and the bounds of its
repetitions are in order. -/
def isPlain : Regex σ α → Bool
  | .empty => true
  | .step _ => true
  | .hold _ => false
  | .seq a b => isPlain a && isPlain b
  | .alt a b => isPlain a && isPlain b
  | .repeated low high _ r => high.all (low ≤ ·) && isPlain r
  | .capture _ _ => false

/-- The stretch of a text from one position to another. -/
def stretch (text : List Char) (i j : Nat) : List Char :=
  (text.drop i).take (j - i)

/-- The stretch between a position and itself is empty. -/
@[simp] theorem stretch_self (text : List Char) (i : Nat) : stretch text i i = [] := by
  simp [stretch]

/-- Two stretches that follow each other. -/
theorem stretch_append {text : List Char} {i j k : Nat} (hij : i ≤ j) (hjk : j ≤ k) :
    stretch text i k = stretch text i j ++ stretch text j k := by
  have hik : k - i = (j - i) + (k - j) := by omega
  have hj : i + (j - i) = j := by omega
  rw [stretch, hik, List.take_add, List.drop_drop, hj]
  rfl

/-! ## Lists of words -/

/-- The expression that chooses among some words, given the step over one character. -/
def ofWords (one : Char → σ) (words : List (List Char)) : Regex σ α :=
  altAll .empty (words.map fun w => seqAll (w.map fun c => .step (one c)))

/-- A word of a row is a word of the first part and a word of the others. -/
theorem isWord_seqAll_cons {holds : σ → Char → Bool} {r : Regex σ α} {rest : List (Regex σ α)}
    {w : List Char} : IsWord holds (seqAll (r :: rest)) w ↔
      ∃ u v, w = u ++ v ∧ IsWord holds r u ∧ IsWord holds (seqAll rest) v := by
  cases rest with
  | nil => simp [seqAll, IsWord]
  | cons r' rest => rfl

/-- A word of a choice is a word of the first branch or of the others. -/
theorem isWord_altAll_cons_cons {holds : σ → Char → Bool} {none r r' : Regex σ α}
    {rest : List (Regex σ α)} {w : List Char} : IsWord holds (altAll none (r :: r' :: rest)) w ↔
      IsWord holds r w ∨ IsWord holds (altAll none (r' :: rest)) w :=
  Iff.rfl

/-- The words of the expression are the given ones. -/
theorem isWord_ofWords {holds : σ → Char → Bool} {one : Char → σ}
    (hone : ∀ c d, holds (one c) d = true ↔ d = c) {words : List (List Char)} (hwords : words ≠ [])
    {w : List Char} : IsWord holds (ofWords one words : Regex σ α) w ↔ w ∈ words := by
  have hword (word w : List Char) :
      IsWord holds (seqAll (word.map fun c => .step (one c)) : Regex σ α) w ↔ w = word := by
    induction word generalizing w with
    | nil => rfl
    | cons c rest ih =>
      rw [List.map_cons, isWord_seqAll_cons]
      simp [IsWord, hone, ih]
  induction words with
  | nil => exact absurd rfl hwords
  | cons word rest ih =>
    cases rest with
    | nil => simpa [ofWords, altAll] using hword word w
    | cons word' rest =>
      have hrest := ih (List.cons_ne_nil word' rest)
      rw [List.mem_cons]
      exact isWord_altAll_cons_cons.trans (or_congr (hword word w) hrest)

/-! ## Characters -/

/-- The steps of an expression over one character. -/
def steps : Regex σ α → List σ
  | .empty => []
  | .step s => [s]
  | .hold _ => []
  | .seq a b => steps a ++ steps b
  | .alt a b => steps a ++ steps b
  | .repeated _ _ _ r => steps r
  | .capture _ r => steps r

section Characters

variable {holds : σ → Char → Bool}

/-- A character of some copies is one of a copy. -/
theorem Copies.exists_of_mem {p : List Char → Prop} {k : Nat} {w : List Char} (h : Copies p k w)
    {c : Char} (hc : c ∈ w) : ∃ u, p u ∧ c ∈ u := by
  induction k generalizing w with
  | zero =>
    obtain rfl : w = [] := h
    cases hc
  | succ k ih =>
    obtain ⟨u, v, rfl, hu, hv⟩ := h
    rcases List.mem_append.1 hc with hc | hc
    · exact ⟨u, hu, hc⟩
    · exact ih hv hc

/-- The characters of a word are those that the steps pass. -/
theorem exists_mem_steps_of_isWord {r : Regex σ α} {w : List Char} (h : IsWord holds r w)
    {c : Char} (hc : c ∈ w) : ∃ s ∈ r.steps, holds s c = true := by
  induction r generalizing w with
  | empty =>
    obtain rfl : w = [] := h
    cases hc
  | step s =>
    obtain ⟨d, rfl, hd⟩ := h
    obtain rfl := List.mem_singleton.1 hc
    exact ⟨s, List.mem_singleton.2 rfl, hd⟩
  | hold a =>
    obtain rfl : w = [] := h
    cases hc
  | seq a b iha ihb =>
    obtain ⟨u, v, rfl, hu, hv⟩ := h
    simp only [steps, List.mem_append, or_and_right, exists_or]
    exact (List.mem_append.1 hc).imp (iha hu) (ihb hv)
  | alt a b iha ihb =>
    simp only [steps, List.mem_append, or_and_right, exists_or]
    exact h.imp (fun h => iha h hc) (fun h => ihb h hc)
  | repeated low high greedy r ih =>
    obtain ⟨k, -, -, hcopies⟩ := h
    obtain ⟨u, hu, hc⟩ := hcopies.exists_of_mem hc
    exact ih hu hc
  | capture name r ih => exact ih h hc

/-- Changing characters keeps copies if it keeps single ones. -/
theorem copies_map_iff {p : List Char → Prop} {f : Char → Char} (h : ∀ u, p (u.map f) ↔ p u)
    {k : Nat} {w : List Char} : Copies p k (w.map f) ↔ Copies p k w := by
  induction k generalizing w with
  | zero => exact List.map_eq_nil_iff
  | succ k ih =>
    constructor
    · rintro ⟨_, _, hw, hu, hv⟩
      obtain ⟨u, v, rfl, rfl, rfl⟩ := List.map_eq_append_iff.1 hw
      exact ⟨u, v, rfl, (h u).1 hu, ih.1 hv⟩
    · rintro ⟨u, v, rfl, hu, hv⟩
      exact ⟨u.map f, v.map f, List.map_append, (h u).2 hu, ih.2 hv⟩

/-- An expression whose steps do not tell a character from its image does not tell a text from its
image. -/
theorem isWord_map_iff {f : Char → Char} {r : Regex σ α}
    (hr : ∀ s ∈ r.steps, ∀ c, holds s (f c) = holds s c) {w : List Char} :
    IsWord holds r (w.map f) ↔ IsWord holds r w := by
  induction r generalizing w with
  | empty => exact List.map_eq_nil_iff
  | step s =>
    have hs := hr s (List.mem_singleton.2 rfl)
    constructor
    · rintro ⟨d, hw, hd⟩
      obtain ⟨c, rfl, rfl⟩ := List.map_eq_singleton_iff.1 hw
      exact ⟨c, rfl, by rwa [← hs c]⟩
    · rintro ⟨c, rfl, hc⟩
      exact ⟨f c, rfl, by rwa [hs c]⟩
  | hold a => exact List.map_eq_nil_iff
  | seq a b iha ihb =>
    obtain ⟨hra, hrb⟩ := List.forall_mem_append.1 hr
    constructor
    · rintro ⟨_, _, hw, hu, hv⟩
      obtain ⟨u, v, rfl, rfl, rfl⟩ := List.map_eq_append_iff.1 hw
      exact ⟨u, v, rfl, (iha hra).1 hu, (ihb hrb).1 hv⟩
    · rintro ⟨u, v, rfl, hu, hv⟩
      exact ⟨u.map f, v.map f, List.map_append, (iha hra).2 hu, (ihb hrb).2 hv⟩
  | alt a b iha ihb =>
    obtain ⟨hra, hrb⟩ := List.forall_mem_append.1 hr
    exact or_congr (iha hra) (ihb hrb)
  | repeated low high greedy r ih =>
    have hcopies := fun k => copies_map_iff (k := k) (w := w) fun u => ih hr (w := u)
    exact exists_congr fun k => and_congr_right fun _ => and_congr_right fun _ => hcopies k
  | capture name r ih => exact ih hr

end Characters

/-! ## Lengths -/

/-- The length that all words of an expression have, if it can be read off the expression. -/
def width? : Regex σ α → Option Nat
  | .empty => some 0
  | .step _ => some 1
  | .hold _ => some 0
  | .seq a b => do
    let m ← width? a
    let n ← width? b
    some (m + n)
  | .alt a b => if width? a = width? b then width? a else none
  | .repeated low high _ r => if high = some low then (width? r).map (low * ·) else none
  | .capture _ r => width? r

/-- Copies of one length have that length as often as there are copies. -/
theorem Copies.length_eq {p : List Char → Prop} {n : Nat} (h : ∀ u, p u → u.length = n) {k : Nat}
    {w : List Char} (hw : Copies p k w) : w.length = k * n := by
  induction k generalizing w with
  | zero =>
    obtain rfl : w = [] := hw
    rw [Nat.zero_mul, List.length_nil]
  | succ k ih =>
    obtain ⟨u, v, rfl, hu, hv⟩ := hw
    rw [List.length_append, h u hu, ih hv, Nat.succ_mul, Nat.add_comm]

/-- All words have the length that is read off the expression. -/
theorem length_of_isWord {holds : σ → Char → Bool} {r : Regex σ α} {n : Nat}
    (hr : r.width? = some n) {w : List Char} (h : IsWord holds r w) : w.length = n := by
  induction r generalizing n w with
  | empty =>
    obtain rfl := Option.some.inj hr
    obtain rfl : w = [] := h
    rfl
  | step s =>
    obtain rfl := Option.some.inj hr
    obtain ⟨c, rfl, -⟩ := h
    rfl
  | hold a =>
    obtain rfl := Option.some.inj hr
    obtain rfl : w = [] := h
    rfl
  | seq a b iha ihb =>
    obtain ⟨k, hk, hrest⟩ := Option.bind_eq_some_iff.1 hr
    obtain ⟨m, hm, hsum⟩ := Option.bind_eq_some_iff.1 hrest
    obtain rfl := Option.some.inj hsum
    obtain ⟨u, v, rfl, hu, hv⟩ := h
    rw [List.length_append, iha hk hu, ihb hm hv]
  | alt a b iha ihb =>
    rw [width?] at hr
    split at hr
    · rename_i hsame
      exact h.elim (iha hr) (ihb (hsame ▸ hr))
    · cases hr
  | repeated low high greedy r ih =>
    rw [width?] at hr
    split at hr
    · rename_i hhigh
      obtain ⟨m, hm, rfl⟩ := Option.map_eq_some_iff.1 hr
      obtain ⟨k, hlow, hbound, hcopies⟩ := h
      obtain rfl : k = low := le_antisymm (hbound low hhigh) hlow
      exact hcopies.length_eq fun u hu => ih hm hu
    · cases hr
  | capture name r ih => exact ih hr h

section Matching

variable (holds : σ → Char → Bool) (meets : α → Option Char → Option Char → Bool)
  (text : List Char)

/-! ## What matches is a word -/

variable {holds meets text} in
/-- Copies that match something are copies of words, at most as many as are tried. -/
theorem copies_of_mem_moreWays {copy : Nat → List Found} {p : List Char → Prop}
    (hadvances : Advances text.length copy)
    (hcopy : ∀ i ≤ text.length, ∀ x ∈ copy i, p (stretch text i x.stop)) {greedy : Bool}
    {fuel i : Nat} (hi : i ≤ text.length) {x : Found} (hx : x ∈ moreWays greedy copy fuel i) :
    ∃ k ≤ fuel, Copies p k (stretch text i x.stop) := by
  induction fuel generalizing i x with
  | zero =>
    rw [List.mem_singleton.1 hx]
    exact ⟨0, le_rfl, stretch_self text i⟩
  | succ fuel ih =>
    rcases mem_moreWays_succ_iff.1 hx with hagain | rfl
    · obtain ⟨y, hy, z, hz, rfl⟩ := mem_andThen.1 hagain
      obtain ⟨hmem, -⟩ := List.mem_filter.1 hy
      obtain ⟨hiy, hyn⟩ := hadvances i hi y hmem
      obtain ⟨k, hk, hcopies⟩ := ih hyn hz
      have hyz := (hadvances.moreWays greedy fuel y.stop hyn z hz).1
      exact ⟨k + 1, by omega, _, _, stretch_append hiy hyz, hcopy i hi y hmem, hcopies⟩
    · exact ⟨0, Nat.zero_le _, stretch_self text i⟩

variable {holds meets text} in
/-- A number of copies and those after them are copies of words. -/
theorem copies_of_mem_exactWays {copy after : Nat → List Found} {p : List Char → Prop}
    {bound : Nat → Prop} (hadvances : Advances text.length copy)
    (hafterAdvances : Advances text.length after)
    (hcopy : ∀ i ≤ text.length, ∀ x ∈ copy i, p (stretch text i x.stop))
    (hafter : ∀ i ≤ text.length, ∀ x ∈ after i, ∃ k, bound k ∧ Copies p k (stretch text i x.stop))
    {low i : Nat} (hi : i ≤ text.length) {x : Found} (hx : x ∈ exactWays copy after low i) :
    ∃ k, bound k ∧ Copies p (low + k) (stretch text i x.stop) := by
  induction low generalizing i x with
  | zero =>
    obtain ⟨k, hk, hcopies⟩ := hafter i hi x hx
    exact ⟨k, hk, by rwa [Nat.zero_add]⟩
  | succ low ih =>
    obtain ⟨y, hy, z, hz, rfl⟩ := mem_andThen.1 hx
    obtain ⟨hiy, hyn⟩ := hadvances i hi y hy
    obtain ⟨k, hk, hcopies⟩ := ih hyn hz
    have hyz := (hadvances.exactWays hafterAdvances low y.stop hyn z hz).1
    refine ⟨k, hk, ?_⟩
    rw [Nat.succ_add]
    exact ⟨_, _, stretch_append hiy hyz, hcopy i hi y hy, hcopies⟩

/-- What an expression matches is a word of it. -/
theorem isWord_of_mem_ways {r : Regex σ α} (hr : r.isPlain = true) {i : Nat}
    (hi : i ≤ text.length) {x : Found} (hx : x ∈ ways holds meets text r i) :
    IsWord holds r (stretch text i x.stop) := by
  induction r generalizing i x with
  | empty =>
    rw [List.mem_singleton.1 hx]
    exact stretch_self text i
  | step s =>
    rw [ways] at hx
    split at hx
    · rename_i hchar
      rw [List.mem_singleton.1 hx]
      obtain ⟨c, hc, hholds⟩ := (Option.any_eq_true _ _).1 hchar
      obtain ⟨hlt, rfl⟩ := List.getElem?_eq_some_iff.1 hc
      refine ⟨text[i], ?_, hholds⟩
      have hone : i + 1 - i = 1 := by omega
      rw [stretch, hone, List.drop_eq_getElem_cons hlt, List.take_succ_cons, List.take_zero]
    · cases hx
  | hold a => cases hr
  | seq a b iha ihb =>
    rw [isPlain, Bool.and_eq_true] at hr
    obtain ⟨y, hy, z, hz, rfl⟩ := mem_andThen.1 hx
    obtain ⟨hiy, hyn⟩ := advances_ways holds meets text a i hi y hy
    have hyz := (advances_ways holds meets text b y.stop hyn z hz).1
    have hwordA := iha hr.1 hi hy
    have hwordB := ihb hr.2 hyn hz
    exact ⟨_, _, stretch_append hiy hyz, hwordA, hwordB⟩
  | alt a b iha ihb =>
    rw [isPlain, Bool.and_eq_true] at hr
    exact (List.mem_append.1 hx).imp (iha hr.1 hi) (ihb hr.2 hi)
  | repeated low high greedy r ih =>
    have hadvances := advances_ways holds meets text r
    rw [isPlain, Bool.and_eq_true] at hr
    have hcopy : ∀ i ≤ text.length, ∀ x ∈ ways holds meets text r i,
        IsWord holds r (stretch text i x.stop) := fun i hi x hx => ih hr.2 hi hx
    have hafter : ∀ j ≤ text.length, ∀ y ∈ moreWays greedy (ways holds meets text r)
        ((high.map (· - low)).getD (text.length - j)) j,
        ∃ k, (∀ h ∈ high, low + k ≤ h) ∧ Copies (IsWord holds r) k (stretch text j y.stop) := by
      intro j hj y hy
      obtain ⟨k, hk, hcopies⟩ := copies_of_mem_moreWays hadvances hcopy hj hy
      refine ⟨k, ?_, hcopies⟩
      rintro h hh
      obtain rfl := Option.mem_def.1 hh
      have hle : low ≤ h := by simpa using hr.1
      rw [Option.map_some, Option.getD_some] at hk
      omega
    obtain ⟨k, hk, hcopies⟩ := copies_of_mem_exactWays hadvances
      (fun j hj y hy => hadvances.moreWays greedy _ j hj y hy) hcopy hafter hi hx
    exact ⟨low + k, Nat.le_add_right low k, hk, hcopies⟩
  | capture name r ih => cases hr

/-! ## What is a word matches -/

/-- Of two texts in a row at the head of a text, the second one is at the head of what is left after
the first one. -/
theorem prefix_of_append_prefix {u v cs : List Char} (h : u ++ v <+: cs) :
    u <+: cs ∧ v <+: cs.drop u.length := by
  obtain ⟨rest, rfl⟩ := h
  rw [List.append_assoc, List.drop_left]
  exact ⟨List.prefix_append u _, List.prefix_append v rest⟩

variable {text} in
/-- The head of what is left of a text. -/
theorem add_length_le {i : Nat} {w : List Char} (hi : i ≤ text.length) (hw : w <+: text.drop i) :
    i + w.length ≤ text.length := by
  have hle := hw.length_le
  rw [List.length_drop] at hle
  omega

variable {holds meets text} in
/-- Copies of words match, without those that match nothing, which are not tried. -/
theorem exists_mem_moreWays {copy : Nat → List Found} {p : List Char → Prop}
    (hcopy : ∀ i ≤ text.length, ∀ w, w <+: text.drop i → p w →
      ∃ x ∈ copy i, x.stop = i + w.length)
    (greedy : Bool) {k fuel i : Nat} (hi : i ≤ text.length) {w : List Char}
    (hfront : w <+: text.drop i) (hcopies : Copies p k w) (hfuel : k ≤ fuel ∨ w.length ≤ fuel) :
    ∃ x ∈ moreWays greedy copy fuel i, x.stop = i + w.length := by
  induction k generalizing fuel i w with
  | zero =>
    obtain rfl : w = [] := hcopies
    refine ⟨⟨i, []⟩, ?_, rfl⟩
    cases fuel with
    | zero => simp [moreWays]
    | succ fuel => exact mem_moreWays_succ_iff.2 (Or.inr rfl)
  | succ k ih =>
    obtain ⟨u, v, rfl, hu, hv⟩ := hcopies
    obtain ⟨hfrontU, hfrontV⟩ := prefix_of_append_prefix hfront
    rw [List.drop_drop] at hfrontV
    rw [List.length_append] at hfuel ⊢
    cases u with
    | nil =>
      -- A copy that matches nothing is not tried, and the others are there without it.
      rw [List.length_nil, Nat.zero_add] at hfuel ⊢
      exact ih hi hfrontV hv (by omega)
    | cons c u =>
      obtain ⟨fuel, rfl⟩ : ∃ f, fuel = f + 1 := by
        refine ⟨fuel - 1, ?_⟩
        rw [List.length_cons] at hfuel
        omega
      obtain ⟨x, hx, hstop⟩ := hcopy i hi (c :: u) hfrontU hu
      have hxn := add_length_le hi hfrontU
      rw [← hstop] at hxn hfrontV
      rw [List.length_cons] at hfuel hstop
      have hrest : k ≤ fuel ∨ v.length ≤ fuel := by omega
      obtain ⟨y, hy, hstopY⟩ := ih hxn hfrontV hv hrest
      have hfilter : x ∈ (copy i).filter (i < ·.stop) := by
        rw [List.mem_filter]
        exact ⟨hx, by simp [hstop]⟩
      have hagain : x.append y ∈ andThen ((copy i).filter (i < ·.stop))
          (moreWays greedy copy fuel) := mem_andThen.2 ⟨x, hfilter, y, hy, rfl⟩
      refine ⟨x.append y, mem_moreWays_succ_iff.2 (Or.inl hagain), ?_⟩
      have happend : (x.append y).stop = y.stop := rfl
      rw [happend, hstopY, hstop, List.length_cons]
      omega

variable {holds meets text} in
/-- A number of copies of words, and what comes after them, matches. -/
theorem exists_mem_exactWays {copy after : Nat → List Found} {p q : List Char → Prop}
    (hcopy : ∀ i ≤ text.length, ∀ w, w <+: text.drop i → p w →
      ∃ x ∈ copy i, x.stop = i + w.length)
    (hafter : ∀ i ≤ text.length, ∀ w, w <+: text.drop i → q w →
      ∃ x ∈ after i, x.stop = i + w.length)
    {low i : Nat} (hi : i ≤ text.length) {u v : List Char} (hfront : u ++ v <+: text.drop i)
    (hcopies : Copies p low u) (hv : q v) :
    ∃ x ∈ exactWays copy after low i, x.stop = i + (u ++ v).length := by
  induction low generalizing i u with
  | zero =>
    obtain rfl : u = [] := hcopies
    exact hafter i hi v hfront hv
  | succ low ih =>
    obtain ⟨first, rest, rfl, hfirst, hrest⟩ := hcopies
    rw [List.append_assoc] at hfront ⊢
    obtain ⟨hfrontFirst, hfrontRest⟩ := prefix_of_append_prefix hfront
    rw [List.drop_drop] at hfrontRest
    obtain ⟨x, hx, hstop⟩ := hcopy i hi first hfrontFirst hfirst
    have hxn := add_length_le hi hfrontFirst
    rw [← hstop] at hxn hfrontRest
    obtain ⟨y, hy, hstopY⟩ := ih hxn hfrontRest hrest
    refine ⟨x.append y, mem_andThen.2 ⟨x, hx, y, hy, rfl⟩, ?_⟩
    have happend : (x.append y).stop = y.stop := rfl
    rw [happend, hstopY, hstop, Nat.add_assoc, ← List.length_append]

/-- Copies in a row as some of them and the rest. -/
theorem Copies.split {p : List Char → Prop} {low k : Nat} {w : List Char}
    (h : Copies p (low + k) w) : ∃ u v, w = u ++ v ∧ Copies p low u ∧ Copies p k v := by
  induction low generalizing w with
  | zero => exact ⟨[], w, rfl, rfl, by rwa [Nat.zero_add] at h⟩
  | succ low ih =>
    rw [Nat.succ_add] at h
    obtain ⟨first, rest, rfl, hfirst, hrest⟩ := h
    obtain ⟨u, v, rfl, hu, hv⟩ := ih hrest
    exact ⟨first ++ u, v, by rw [List.append_assoc], ⟨first, u, rfl, hfirst, hu⟩, hv⟩

/-- Copies of words that parts make are what some parts make, one after the other. -/
theorem copies_iff_flatMap {β : Type} {p : List Char → Prop} {q : β → Prop} {make : β → List Char}
    (h : ∀ u, p u ↔ ∃ b, q b ∧ u = make b) {k : Nat} {w : List Char} :
    Copies p k w ↔ ∃ parts : List β, parts.length = k ∧ (∀ b ∈ parts, q b) ∧
      w = parts.flatMap make := by
  induction k generalizing w with
  | zero =>
    constructor
    · rintro rfl
      exact ⟨[], rfl, by simp, rfl⟩
    · rintro ⟨parts, hlength, -, rfl⟩
      obtain rfl := List.length_eq_zero_iff.1 hlength
      rfl
  | succ k ih =>
    constructor
    · rintro ⟨u, v, rfl, hu, hv⟩
      obtain ⟨b, hb, rfl⟩ := (h u).1 hu
      obtain ⟨parts, rfl, hparts, rfl⟩ := ih.1 hv
      exact ⟨b :: parts, rfl, List.forall_mem_cons.2 ⟨hb, hparts⟩, rfl⟩
    · rintro ⟨parts, hlength, hparts, rfl⟩
      obtain ⟨b, rest, rfl⟩ := List.exists_cons_of_length_eq_add_one hlength
      obtain ⟨hb, hrest⟩ := List.forall_mem_cons.1 hparts
      have hcopies : Copies p k (rest.flatMap make) :=
        ih.2 ⟨rest, Nat.succ.inj hlength, hrest, rfl⟩
      exact ⟨make b, rest.flatMap make, rfl, (h _).2 ⟨b, hb, rfl⟩, hcopies⟩

/-- A word at the head of what is left is matched. -/
theorem exists_mem_ways {r : Regex σ α} (hr : r.isPlain = true) {i : Nat} (hi : i ≤ text.length)
    {w : List Char} (hfront : w <+: text.drop i) (hw : IsWord holds r w) :
    ∃ x ∈ ways holds meets text r i, x.stop = i + w.length := by
  induction r generalizing i w with
  | empty =>
    obtain rfl : w = [] := hw
    exact ⟨⟨i, []⟩, by simp [ways], rfl⟩
  | step s =>
    obtain ⟨c, rfl, hholds⟩ := hw
    obtain ⟨rest, hrest⟩ := hfront
    have hc : text[i]? = some c := by
      rw [← List.head?_drop, ← hrest]
      rfl
    exact ⟨⟨i + 1, []⟩, by simp [ways, hc, hholds], rfl⟩
  | hold a => cases hr
  | seq a b iha ihb =>
    rw [isPlain, Bool.and_eq_true] at hr
    obtain ⟨u, v, rfl, hu, hv⟩ := hw
    obtain ⟨hfrontU, hfrontV⟩ := prefix_of_append_prefix hfront
    rw [List.drop_drop] at hfrontV
    obtain ⟨x, hx, hstop⟩ := iha hr.1 hi hfrontU hu
    have hxn := add_length_le hi hfrontU
    rw [← hstop] at hxn hfrontV
    obtain ⟨y, hy, hstopY⟩ := ihb hr.2 hxn hfrontV hv
    refine ⟨x.append y, mem_andThen.2 ⟨x, hx, y, hy, rfl⟩, ?_⟩
    have happend : (x.append y).stop = y.stop := rfl
    rw [happend, hstopY, hstop, List.length_append, Nat.add_assoc]
  | alt a b iha ihb =>
    rw [isPlain, Bool.and_eq_true] at hr
    rcases hw with hw | hw
    · obtain ⟨x, hx, hstop⟩ := iha hr.1 hi hfront hw
      exact ⟨x, List.mem_append_left _ hx, hstop⟩
    · obtain ⟨x, hx, hstop⟩ := ihb hr.2 hi hfront hw
      exact ⟨x, List.mem_append_right _ hx, hstop⟩
  | repeated low high greedy r ih =>
    rw [isPlain, Bool.and_eq_true] at hr
    obtain ⟨k, hlow, hhigh, hcopies⟩ := hw
    obtain ⟨more, rfl⟩ := Nat.exists_eq_add_of_le hlow
    obtain ⟨u, v, rfl, hu, hv⟩ := hcopies.split
    have hcopy : ∀ i ≤ text.length, ∀ w, w <+: text.drop i → IsWord holds r w →
        ∃ x ∈ ways holds meets text r i, x.stop = i + w.length :=
      fun i hi w hfront hw => ih hr.2 hi hfront hw
    refine exists_mem_exactWays hcopy ?_ hi hfront hu hv
    intro j hj w hfront hcopies
    refine exists_mem_moreWays hcopy greedy hj hfront hcopies ?_
    -- The bound holds the copies that are left, or what is left of the text does.
    cases high with
    | some high =>
      have hle := hhigh high rfl
      exact Or.inl (by rw [Option.map_some, Option.getD_some]; omega)
    | none =>
      have hle := add_length_le hj hfront
      exact Or.inr (by rw [Option.map_none, Option.getD_none]; omega)
  | capture name r ih => cases hr

/-! ## What is left of a text -/

/-- A match of what is left after `i` characters, as a match of the whole text. -/
def shift (i : Nat) (x : Found) : Found :=
  ⟨i + x.stop, x.captures⟩

/-- Matches that follow each other in what is left of a text. -/
theorem andThen_map_shift {i : Nat} {f g : Nat → List Found}
    (h : ∀ j, f (i + j) = (g j).map (shift i)) (xs : List Found) :
    andThen (xs.map (shift i)) f = (andThen xs g).map (shift i) := by
  rw [andThen, andThen, List.flatMap_map, List.map_flatMap]
  apply List.flatMap_congr
  intro x _
  have hstop : (shift i x).stop = i + x.stop := rfl
  rw [hstop, h x.stop, List.map_map, List.map_map]
  rfl

/-- Further copies are found alike from a later position. -/
theorem moreWays_add {i : Nat} {copy copy' : Nat → List Found}
    (h : ∀ j, copy (i + j) = (copy' j).map (shift i)) (greedy : Bool) (fuel j : Nat) :
    moreWays greedy copy fuel (i + j) = (moreWays greedy copy' fuel j).map (shift i) := by
  induction fuel generalizing j with
  | zero => rfl
  | succ fuel ih =>
    have hfilter : (copy (i + j)).filter (i + j < ·.stop) =
        ((copy' j).filter (j < ·.stop)).map (shift i) := by
      have hstop : ((fun x : Found => decide (i + j < x.stop)) ∘ shift i) =
          fun x => decide (j < x.stop) := by
        funext x
        simp [shift]
      rw [h, List.filter_map, hstop]
    have hagain := andThen_map_shift ih ((copy' j).filter (j < ·.stop))
    rw [moreWays, moreWays, hfilter, hagain]
    cases greedy with
    | true => simp [shift]
    | false => simp [shift]

/-- A number of copies is found alike from a later position. -/
theorem exactWays_add {i : Nat} {copy copy' after after' : Nat → List Found}
    (h : ∀ j, copy (i + j) = (copy' j).map (shift i))
    (hafter : ∀ j, after (i + j) = (after' j).map (shift i)) (low j : Nat) :
    exactWays copy after low (i + j) = (exactWays copy' after' low j).map (shift i) := by
  induction low generalizing j with
  | zero => exact hafter j
  | succ low ih => rw [exactWays, exactWays, h, andThen_map_shift ih]

/-- What is matched from some position on depends on what is left of the text alone. -/
theorem ways_add {r : Regex σ α} (hr : r.isPlain = true) (i j : Nat) :
    ways holds meets text r (i + j) = (ways holds meets (text.drop i) r j).map (shift i) := by
  induction r generalizing j with
  | empty => rfl
  | step s =>
    rw [ways, ways, List.getElem?_drop]
    split <;> rfl
  | hold a => cases hr
  | seq a b iha ihb =>
    rw [isPlain, Bool.and_eq_true] at hr
    rw [ways, ways, iha hr.1, andThen_map_shift (ihb hr.2)]
  | alt a b iha ihb =>
    rw [isPlain, Bool.and_eq_true] at hr
    rw [ways, ways, iha hr.1, ihb hr.2, List.map_append]
  | repeated low high greedy r ih =>
    rw [isPlain, Bool.and_eq_true] at hr
    rw [ways, ways]
    refine exactWays_add (ih hr.2) ?_ low j
    intro j
    rw [moreWays_add (ih hr.2), List.length_drop, Nat.sub_sub]
  | capture name r ih => cases hr

/-! ## What is noted -/

/-- Whether no match notes anything. -/
def NotesNothing (f : Nat → List Found) : Prop :=
  ∀ i, ∀ x ∈ f i, x.captures = []

/-- Going on from matches that note nothing notes nothing. -/
theorem NotesNothing.andThen {f next : Nat → List Found} (hf : NotesNothing f)
    (hnext : NotesNothing next) : NotesNothing fun i => andThen (f i) next := by
  intro i z hz
  obtain ⟨x, hx, y, hy, rfl⟩ := mem_andThen.1 hz
  have happend : (x.append y).captures = x.captures ++ y.captures := rfl
  rw [happend, hf i x hx, hnext x.stop y hy, List.append_nil]

/-- The empty match notes nothing. -/
theorem notesNothing_stay : NotesNothing fun i => [⟨i, []⟩] := by
  intro i x hx
  rw [List.mem_singleton.1 hx]

/-- Further copies note nothing if one copy notes nothing. -/
theorem NotesNothing.moreWays {copy : Nat → List Found} (h : NotesNothing copy) (greedy : Bool)
    (fuel : Nat) : NotesNothing (moreWays greedy copy fuel) := by
  induction fuel with
  | zero => exact notesNothing_stay
  | succ fuel ih =>
    have hfilter : NotesNothing fun i => (copy i).filter (i < ·.stop) :=
      fun i x hx => h i x (List.mem_of_mem_filter hx)
    intro i x hx
    rcases mem_moreWays_succ_iff.1 hx with hagain | rfl
    · exact hfilter.andThen ih i x hagain
    · rfl

/-- A number of copies notes nothing if one copy notes nothing, and neither does what comes after
them. -/
theorem NotesNothing.exactWays {copy after : Nat → List Found} (hcopy : NotesNothing copy)
    (hafter : NotesNothing after) (low : Nat) : NotesNothing (exactWays copy after low) := by
  induction low with
  | zero => exact hafter
  | succ low ih => exact hcopy.andThen ih

/-- An expression without captures notes nothing. -/
theorem notesNothing_ways {r : Regex σ α} (hr : r.isPlain = true) :
    NotesNothing (ways holds meets text r) := by
  induction r with
  | empty => exact notesNothing_stay
  | step s =>
    intro i x hx
    rw [ways] at hx
    split at hx
    · rw [List.mem_singleton.1 hx]
    · cases hx
  | hold a => cases hr
  | seq a b iha ihb =>
    rw [isPlain, Bool.and_eq_true] at hr
    exact (iha hr.1).andThen (ihb hr.2)
  | alt a b iha ihb =>
    rw [isPlain, Bool.and_eq_true] at hr
    intro i x hx
    exact (List.mem_append.1 hx).elim (iha hr.1 i x) (ihb hr.2 i x)
  | repeated low high greedy r ih =>
    rw [isPlain, Bool.and_eq_true] at hr
    refine (ih hr.2).exactWays ?_ low
    intro i x hx
    exact (ih hr.2).moreWays greedy _ i x hx
  | capture name r ih => cases hr

end Matching

end Regex

end FieldRules.Pattern
