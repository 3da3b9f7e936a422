/-!
# Regular expressions over positions

A `Regex` says which stretches of a text match, given what its leaves hold: the characters that one
step passes, and the conditions that one position meets.  `Regex.locate` replaces every leaf by the
set of the positions of a given text at which it applies, a set of positions being a number whose
bits are its members.  `starts` then computes, from a set of ends, the set of all positions from
which a match reaches one of them; all positions are treated at once, so that no pattern takes
exponentially long.  `take?` finds one match from a given position: the one that prefers the first
branch, and more copies of a greedy repetition over fewer.
-/

set_option autoImplicit false

namespace FieldRules.Pattern

/-- A regular expression whose leaves are steps over one character and conditions on a position. -/
inductive Regex (σ α : Type) where
  /-- Matches the empty stretch. -/
  | empty
  /-- Matches one character. -/
  | step (s : σ)
  /-- Matches the empty stretch at some positions. -/
  | hold (a : α)
  /-- One after the other. -/
  | seq (a b : Regex σ α)
  /-- The first, or else the second. -/
  | alt (a b : Regex σ α)
  /-- At least `low` copies, at most `high` if there is such a bound. -/
  | repeated (low : Nat) (high : Option Nat) (greedy : Bool) (r : Regex σ α)
  /-- Notes which stretch matched, under a name if there is one. -/
  | capture (name : Option String) (r : Regex σ α)
deriving DecidableEq

namespace Regex

variable {σ α : Type}

/-- One after the other, all of them. -/
def seqAll : List (Regex σ α) → Regex σ α
  | [] => .empty
  | [r] => r
  | r :: rest => .seq r (seqAll rest)

/-- The first of them, or else one of the rest; without any, `none` matches. -/
def altAll (none : Regex σ α) : List (Regex σ α) → Regex σ α
  | [] => none
  | [r] => r
  | r :: rest => .alt r (altAll none rest)

/-- Changes the leaves. -/
def map {τ β : Type} (f : σ → τ) (g : α → β) : Regex σ α → Regex τ β
  | .empty => .empty
  | .step s => .step (f s)
  | .hold a => .hold (g a)
  | .seq a b => .seq (map f g a) (map f g b)
  | .alt a b => .alt (map f g a) (map f g b)
  | .repeated low high greedy r => .repeated low high greedy (map f g r)
  | .capture name r => .capture name (map f g r)

end Regex

/-! ## Sets of positions -/

/-- A set of positions: bit `i` tells whether `i` is a member. -/
abbrev Positions : Type := Nat

/-- The positions `0`, …, `n`. -/
def Positions.upTo (n : Nat) : Positions := (1 <<< (n + 1)) - 1

/-- The members that are greater than `i`. -/
def Positions.after (i : Nat) (s : Positions) : Positions := (s >>> (i + 1)) <<< (i + 1)

/-- The positions of the characters that satisfy a test. -/
def charPositions (p : Char → Bool) : List Char → Positions
  | [] => 0
  | c :: rest => 2 * charPositions p rest + (if p c then 1 else 0)

/-- The positions whose neighbours satisfy a test; `before` is the character before the first. -/
def gapPositions (p : Option Char → Option Char → Bool) (before : Option Char) :
    List Char → Positions
  | [] => if p before none then 1 else 0
  | c :: rest => 2 * gapPositions p (some c) rest + (if p before (some c) then 1 else 0)

/-- Applies a function until its value no longer changes, at most `fuel` times. -/
def untilStable (f : Positions → Positions) : (fuel : Nat) → Positions → Positions
  | 0, x => x
  | fuel + 1, x =>
    let y := f x
    if y = x then x else untilStable f fuel y

namespace Regex

/-- Replaces each leaf by the positions of a text at which it applies. -/
def locate {σ α : Type} (holds : σ → Char → Bool) (meets : α → Option Char → Option Char → Bool)
    (text : List Char) (r : Regex σ α) : Regex Positions Positions :=
  r.map (fun s => charPositions (holds s) text) (fun a => gapPositions (meets a) none text)

/-! ## Where matches start -/

/-- From the positions `ends`, the positions from which at most `high` copies reach one of them, or
any number of copies if there is no bound.  In a text of `n` characters, `n + 1` rounds find all. -/
def someStarts (n : Nat) (high : Option Nat) (copy : Positions → Positions) (ends : Positions) :
    Positions :=
  untilStable (fun y => ends ||| copy y) (high.getD (n + 1)) ends

/-- The positions from which a match reaches one of `ends`, in a text of `n` characters. -/
def starts (n : Nat) : Regex Positions Positions → Positions → Positions
  | .empty, ends => ends
  | .step s, ends => (ends >>> 1) &&& s
  | .hold a, ends => ends &&& a
  | .seq a b, ends => starts n a (starts n b ends)
  | .alt a b, ends => starts n a ends ||| starts n b ends
  | .repeated low high _ r, ends =>
    untilStable (starts n r) low (someStarts n (high.map (· - low)) (starts n r) ends)
  | .capture _ r, ends => starts n r ends

/-! ## The preferred match -/

/-- A match from some position. -/
structure Found where
  /-- Where it ends. -/
  stop : Nat
  /-- The names of the named captures with the start and the end of each, in the order of their
  ends. -/
  captures : List (String × Nat × Nat)

/-- A match followed by another. -/
def Found.append (x y : Found) : Found := ⟨y.stop, x.captures ++ y.captures⟩

/-- The empty match at a position, if it is one of `ends`. -/
def stay? (ends : Positions) (i : Nat) : Option Found :=
  if ends.testBit i then some ⟨i, []⟩ else none

/-- The preferred match of copies of one expression without a lower bound, at most `fuel` of them.
`copy ends i` is the preferred match of one copy, `copyStarts` gives the positions from which one
copy reaches given ends.  Only copies that match something are repeated. -/
def takeSome? (n : Nat) (high : Option Nat) (greedy : Bool)
    (copy : Positions → Nat → Option Found) (copyStarts : Positions → Positions)
    (ends : Positions) : (fuel : Nat) → Nat → Option Found
  | 0, i => stay? ends i
  | fuel + 1, i =>
    let again : Option Found := do
      let rest := someStarts n (high.map fun _ => fuel) copyStarts ends
      let x ← copy (Positions.after i rest) i
      let y ← takeSome? n high greedy copy copyStarts ends fuel x.stop
      return x.append y
    if greedy then again <|> stay? ends i else stay? ends i <|> again

/-- The preferred match of `low` copies and then of whatever `after` prefers; `afterStarts` are the
positions at which `after` has a match. -/
def takeExactly? (copy : Positions → Nat → Option Found) (copyStarts : Positions → Positions)
    (after : Nat → Option Found) (afterStarts : Positions) : (low : Nat) → Nat → Option Found
  | 0, i => after i
  | low + 1, i => do
    let x ← copy (untilStable copyStarts low afterStarts) i
    let y ← takeExactly? copy copyStarts after afterStarts low x.stop
    return x.append y

/-- The preferred match from position `i` to one of `ends`, in a text of `n` characters. -/
def take? (n : Nat) : Regex Positions Positions → Positions → Nat → Option Found
  | .empty, ends, i => stay? ends i
  | .step s, ends, i => if s.testBit i then stay? ends (i + 1) else none
  | .hold a, ends, i => if a.testBit i then stay? ends i else none
  | .seq a b, ends, i => do
    let x ← take? n a (starts n b ends) i
    let y ← take? n b ends x.stop
    return x.append y
  | .alt a b, ends, i => take? n a ends i <|> take? n b ends i
  | .repeated low high greedy r, ends, i =>
    let extra := high.map (· - low)
    takeExactly? (take? n r) (starts n r)
      (takeSome? n extra greedy (take? n r) (starts n r) ends (extra.getD (n + 1)))
      (someStarts n extra (starts n r) ends) low i
  | .capture name r, ends, i => do
    let x ← take? n r ends i
    return ⟨x.stop, x.captures ++ name.toList.map fun name => (name, i, x.stop)⟩

/-- Whether some stretch of a text of `n` characters matches. -/
def matchesSomewhere (n : Nat) (r : Regex Positions Positions) : Bool :=
  starts n r (Positions.upTo n) != 0

/-- Whether the whole of a text of `n` characters matches. -/
def matchesWhole (n : Nat) (r : Regex Positions Positions) : Bool :=
  (starts n r (1 <<< n)).testBit 0

/-- The preferred one of the matches that start first. -/
def first? (n : Nat) (r : Regex Positions Positions) : Option Found :=
  let found := starts n r (Positions.upTo n)
  match (List.range (n + 1)).find? fun i => found.testBit i with
  | some i => take? n r (Positions.upTo n) i
  | none => none

end Regex

end FieldRules.Pattern
