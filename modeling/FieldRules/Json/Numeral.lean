import FieldRules.Json.Basic
import FieldRules.Text.Digits

/-!
# JSON numerals

`Numeral` is a number as JSON writes it, and `Numeral.value?` the number that it stands for.  A
numeral without a fraction and an exponent is an integer, if a word holds it.  Any other is read in
steps: its digits fill a word as far as they fit, the word is rounded to a floating-point number,
and that is multiplied or divided by a power of ten.  Each step rounds, so the result may miss the
number nearest to the numeral by a little.
-/

set_option autoImplicit false

namespace FieldRules

namespace Binary64

/-- The greatest power of ten by which one step multiplies or divides. -/
def maxPower : Nat := 308

/-- The number divided by `10 ^ n` in steps, at most `fuel` of them; a number that has become zero
stays zero. -/
def shiftDown? : (fuel n : Nat) → Binary64 → Option Binary64
  | 0, _, x => some x
  | fuel + 1, n, x =>
    if x.isZero ∧ maxPower < n then some x
    else do
      let y ← x.div? (← ofInt? (Int.pow 10 (min n maxPower)))
      if n ≤ maxPower then some y else shiftDown? fuel (n - maxPower) y

/-- The number multiplied by `10 ^ n`, none if it is too large. -/
def shiftUp? (n : Nat) (x : Binary64) : Option Binary64 :=
  if n ≤ maxPower then do x.mul? (← ofInt? (Int.pow 10 n))
  else if x.isZero then some x
  else none

/-- The number `word · 10 ^ exponent`, rounded after every step, none if it is too large.  What a
word holds is zero after two divisions by `10 ^ 308`, so no more than three are made. -/
def scaled? (word : Nat) : (exponent : Int) → Option Binary64
  | .ofNat n => do (← ofInt? word).shiftUp? n
  | .negSucc n => do (← ofInt? word).shiftDown? 3 (n + 1)

end Binary64

/-- A number as JSON writes it. -/
structure Numeral where
  /-- Whether a minus sign stands before it. -/
  negative : Bool
  /-- The digits before the point. -/
  whole : List Char
  /-- The digits after the point. -/
  fraction : List Char
  /-- The power of ten after the digits, if there is one. -/
  exponent : Option Int
deriving DecidableEq, Repr

namespace Numeral

/-- Reads digits into a word after those that it holds, up to the first one that does not fit: the
word, and how many digits are left. -/
def fill (word : Nat) : List Char → Nat × Nat
  | [] => (word, 0)
  | c :: rest =>
    let next := 10 * word + Text.numeralValue [c]
    if next < Text.wordBound then fill next rest else (word, rest.length + 1)

/-- The absolute value as a floating-point number.  Each digit before the point that does not fit
the word counts as a power of ten; after the point such digits are passed over. -/
def magnitude? (t : Numeral) : Option Binary64 :=
  let (whole, above) := fill 0 t.whole
  let (word, below) := fill whole t.fraction
  Binary64.scaled? word (t.exponent.getD 0 + above - (t.fraction.length - below : Nat))

/-- The value as a floating-point number, none if it is too large. -/
def float? (t : Numeral) : Option Binary64 :=
  t.magnitude?.map fun x => if t.negative then x.neg else x

/-- The integer that the numeral is, if it has neither fraction nor exponent, is not minus zero, and
a word holds it. -/
def integer? (t : Numeral) : Option WordInt :=
  let n : Int := Text.numeralValue t.whole
  if t.fraction.isEmpty ∧ t.exponent.isNone ∧ ¬(t.negative ∧ n = 0) then
    WordInt.ofInt? (if t.negative then -n else n)
  else
    none

/-- The number that the numeral stands for, none if it is too large. -/
def value? (t : Numeral) : Option Number :=
  match t.integer? with
  | some n => some (.int n)
  | none => t.float?.map .float

end Numeral

end FieldRules
