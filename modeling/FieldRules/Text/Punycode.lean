import FieldRules.Text.Digits
import FieldRules.Text.Split

/-!
# Punycode

Punycode writes a text with letters, digits and hyphens of ASCII: first the characters of ASCII,
with a hyphen after them, and then where the others stand among them, from the lowest to the
highest.  Each of these steps is a number in digits to the base 36, whose bounds adapt to the steps
before it.  `Punycode.decode?` reads a text that is written so.
-/

set_option autoImplicit false

namespace FieldRules.Punycode

/-- The base of the digits. -/
def base : Nat := 36

/-- The bound of the numbers that occur while a text is read. -/
def bound : Nat := 1 <<< 32

/-- The value of a digit: letters in either case, and then the decimal digits. -/
def digit? (c : Char) : Option Nat :=
  if 'a' ≤ c ∧ c ≤ 'z' then some (c.toNat - 97)
  else if 'A' ≤ c ∧ c ≤ 'Z' then some (c.toNat - 65)
  else if '0' ≤ c ∧ c ≤ '9' then some (c.toNat - 48 + 26)
  else none

/-- The least digit that does not end a number, at the place that `k` counts in steps of `base`. -/
def threshold (bias k : Nat) : Nat :=
  if k ≤ bias then 1 else min 26 (k - bias)

/-- Divides by 35 until at most 455 is left, and counts `base` for each time. -/
def reduce (k delta : Nat) : Nat × Nat :=
  if 455 < delta then reduce (k + base) (delta / 35) else (k, delta)
termination_by delta
decreasing_by exact Nat.div_lt_self (by omega) (by decide)

/-- The bias after a step of `delta`, with `length` characters read; the first step counts less. -/
def adapt (delta length : Nat) (isFirst : Bool) : Nat :=
  let delta := if isFirst then delta / 700 else delta / 2
  let (k, delta) := reduce 0 (delta + delta / length)
  k + base * delta / (delta + 38)

/-- Reads one number, and what follows it. -/
def readNumber (bias : Nat) : (weight k : Nat) → List Char → Option (Nat × List Char)
  | _, _, [] => none
  | weight, k, c :: rest => do
    let digit ← digit? c
    let t := threshold bias k
    if digit < t then some (digit * weight, rest)
    else
      let next := weight * (base - t)
      if next < bound then
        let (n, rest) ← readNumber bias next (k + base) rest
        some (digit * weight + n, rest)
      else
        none

/-- What has been read of a text. -/
structure Progress where
  /-- The characters so far. -/
  chars : List Char
  /-- The code point of the last character that was put in. -/
  code : Nat
  /-- The place after the last character that was put in. -/
  place : Nat
  bias : Nat

/-- Puts in the character that a number tells: the number counts the places from the last one on,
and each time that it passes the end the code point grows by one. -/
def Progress.insert? (p : Progress) (delta : Nat) : Option Progress := do
  let count := p.chars.length + 1
  let total := p.place + delta
  if total < bound then
    let code := p.code + total / count
    let c ← Text.char? code
    some
      { chars := p.chars.insertIdx (total % count) c
        code := code
        place := total % count + 1
        bias := adapt delta count (p.place == 0) }
  else
    none

/-- Reads numbers to the end, at most `fuel` of them. -/
def readAll : (fuel : Nat) → Progress → List Char → Option (List Char)
  | _, p, [] => some p.chars
  | 0, _, _ => none
  | fuel + 1, p, cs => do
    let (delta, rest) ← readNumber p.bias 1 base cs
    readAll fuel (← p.insert? delta) rest

/-- The characters of ASCII before the last hyphen, and the digits after it; a hyphen at the start
is no such mark. -/
def split (cs : List Char) : List Char × List Char :=
  match Text.splitFirst? (· == '-') cs.reverse with
  | some (digits, first :: more) => ((first :: more).reverse, digits.reverse)
  | _ => ([], cs)

/-- The text that is written in Punycode. -/
def decode? (cs : List Char) : Option (List Char) :=
  let (chars, digits) := split cs
  readAll digits.length ⟨chars, 128, 0, 72⟩ digits

end FieldRules.Punycode
