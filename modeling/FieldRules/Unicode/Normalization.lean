import FieldRules.Unicode.Decomposition

/-!
# Canonical composition

Texts that look the same may be written with different characters.  `composed` gives the form of a
text in which as many characters as possible are put together: every character is decomposed, marks
after a character are sorted by their combining classes, and then pairs are composed from the left.
-/

set_option autoImplicit false

namespace FieldRules.Unicode

/-! ## Syllables of Hangul -/

/-- The first syllable of Hangul; the syllables are ordered by their three letters. -/
def firstSyllable : Nat := 0xAC00

/-- The first letter of each of the three places in a syllable; the last place may be empty, for
which the code point before its letters stands. -/
def firstLetters : Nat × Nat × Nat := (0x1100, 0x1161, 0x11A7)

/-- How many letters there are for the first and for the second place, and how many for the last,
with the empty one. -/
def letterCounts : Nat × Nat × Nat := (19, 21, 28)

/-- The number of a syllable among the syllables. -/
def syllableIndex? (n : Nat) : Option Nat :=
  let (initials, vowels, finals) := letterCounts
  if firstSyllable ≤ n ∧ n < firstSyllable + initials * vowels * finals then
    some (n - firstSyllable)
  else
    none

/-- The two or three letters of a syllable. -/
def syllableLetters? (n : Nat) : Option (List Nat) :=
  let (initial, vowel, final) := firstLetters
  let (_, vowels, finals) := letterCounts
  (syllableIndex? n).map fun i =>
    let letters := [initial + i / (vowels * finals), vowel + i / finals % vowels]
    if i % finals = 0 then letters else letters ++ [final + i % finals]

/-- The syllable that a first and a second letter compose to, or a syllable without a last letter
and a last letter. -/
def syllable? (a b : Nat) : Option Nat :=
  let (initial, vowel, final) := firstLetters
  let (initials, vowels, finals) := letterCounts
  if initial ≤ a ∧ a < initial + initials ∧ vowel ≤ b ∧ b < vowel + vowels then
    some (firstSyllable + ((a - initial) * vowels + (b - vowel)) * finals)
  else
    match syllableIndex? a with
    | some i =>
      if i % finals = 0 ∧ final < b ∧ b < final + finals then some (a + (b - final)) else none
    | none => none

/-! ## Decomposing -/

/-- The characters that a character stands for in the end.  The first of two may decompose again, at
most `fuel` times. -/
def decomposeCode : (fuel n : Nat) → List Nat
  | 0, n => [n]
  | fuel + 1, n =>
    match decompositions.lookup n with
    | some (first :: rest) => decomposeCode fuel first ++ rest
    | _ => (syllableLetters? n).getD [n]

/-- The greatest number of times that a character decomposes. -/
def decompositionDepth : Nat := 3

/-- Puts a character before others, after the marks at their head that have a lower class than its
own, unless it is no mark itself. -/
def placeMark (c : Char) : List Char → List Char
  | [] => [c]
  | d :: rest =>
    if combiningClass d ≠ 0 ∧ combiningClass d < combiningClass c then d :: placeMark c rest
    else c :: d :: rest

/-- The text with every character decomposed and the marks sorted. -/
def decomposed (cs : List Char) : List Char :=
  (cs.flatMap fun c => (decomposeCode decompositionDepth c.toNat).map Char.ofNat).foldr placeMark []

/-! ## Composing -/

/-- The character that two characters compose to. -/
def compose? (a b : Char) : Option Char :=
  let pair := compositions.find? fun (_, x, y) => x == a.toNat && y == b.toNat
  ((pair.map (·.1)) <|> syllable? a.toNat b.toNat).map Char.ofNat

/-- Composes what follows with `first`; `held` has the marks since then that did not compose, the
last one first.  A mark composes unless one of the same class is held, and any other character only
if none is held. -/
def composeAfter (first : Char) (held : List Char) : List Char → List Char
  | [] => first :: held.reverse
  | c :: rest =>
    let blocked := match held with
      | [] => false
      | last :: _ => decide (combiningClass c ≤ combiningClass last)
    match if blocked then none else compose? first c with
    | some x => composeAfter x held rest
    | none =>
      if combiningClass c = 0 then first :: (held.reverse ++ composeAfter c [] rest)
      else composeAfter first (c :: held) rest

/-- Composes a decomposed text; marks at its head stay as they are. -/
def compose : List Char → List Char
  | [] => []
  | c :: rest => if combiningClass c = 0 then composeAfter c [] rest else c :: compose rest

/-- The composed form of a text.  Below the first combining mark it is the text itself. -/
def composed (cs : List Char) : List Char :=
  if cs.all (·.toNat < 0x300) then cs else compose (decomposed cs)

end FieldRules.Unicode
