import FieldRules.Number.Binary64

/-!
# Decimals

Between decimal digits and binary numbers.  `Binary64.ofDecimal?` reads the decimal `n · 10 ^ e` as
the nearest number; `Binary64.shortest` gives, for a number other than zero, the decimal of fewest
digits that reads back as it, the nearest one where several have as few, and of two as near the one
with an even last digit.
-/

set_option autoImplicit false

namespace FieldRules

/-- The decimal number `digits · 10 ^ exponent`. -/
structure Decimal where
  /-- The digits, read as an integer. -/
  digits : Nat
  /-- The power of ten that the last digit counts. -/
  exponent : Int
deriving DecidableEq, Repr

namespace Decimal

/-- How many decimal digits a number has; zero has one. -/
def digitCount (n : Nat) : Nat :=
  (Nat.toDigits 10 n).length

/-- The same decimal without zeros at the end of its digits, at most `fuel` of them. -/
def stripZeros : (fuel : Nat) → Decimal → Decimal
  | 0, d => d
  | fuel + 1, d =>
    if d.digits ≠ 0 ∧ d.digits % 10 = 0 then
      stripZeros fuel ⟨d.digits / 10, d.exponent + 1⟩
    else
      d

end Decimal

namespace Binary64

/-- The number nearest to `± digits · 10 ^ exponent`, none if it is too large.  A decimal whose
first digit stands above the place `10 ^ 400` is too large, and one whose first digit stands below
the place `10 ^ -400` is nearest to zero, so the powers that are computed stay small. -/
def ofDecimal? (negative : Bool) (d : Decimal) : Option Binary64 :=
  let places : Int := d.exponent + Decimal.digitCount d.digits
  if d.digits = 0 ∨ places < -400 then
    ofFields? negative 0 0
  else if 400 < places then
    none
  else if 0 ≤ d.exponent then
    ofRatio? negative (d.digits * Nat.pow 10 d.exponent.toNat) 1
  else
    ofRatio? negative d.digits (Nat.pow 10 (-d.exponent).toNat)

/-- The open or closed interval of the values that read as one number, and that number's own value,
all counted in units of `2 ^ -1076`. -/
structure Basin where
  /-- The number's own value. -/
  centre : Nat
  /-- The value halfway to the next smaller number. -/
  low : Nat
  /-- The value halfway to the next larger number. -/
  high : Nat
  /-- Whether the two ends read as the number too. -/
  closed : Bool

/-- The values that read as the absolute value of a number. -/
def basin (x : Binary64) : Basin :=
  let unit := 1 <<< x.scale
  let step := if x.significand = 1 <<< 52 ∧ 0 < x.scale then 1 else 2
  { centre := 4 * x.significand * unit
    low := (4 * x.significand - step) * unit
    high := (4 * x.significand + 2) * unit
    closed := x.significand % 2 == 0 }

/-- Whether the decimal `k · 10 ^ p` lies in the basin. -/
def Basin.holds (b : Basin) (k : Nat) (p : Int) : Bool :=
  let value := k * (Nat.pow 10 p.toNat <<< 1076)
  let zoom := Nat.pow 10 (-p).toNat
  if b.closed then
    decide (b.low * zoom ≤ value ∧ value ≤ b.high * zoom)
  else
    decide (b.low * zoom < value ∧ value < b.high * zoom)

/-- The decimal on the grid of step `10 ^ p` that lies in the basin nearest to its centre, the even
one of two as near. -/
def Basin.nearest? (b : Basin) (p : Int) : Option Decimal :=
  let step := Nat.pow 10 p.toNat <<< 1076
  let centre := b.centre * Nat.pow 10 (-p).toNat
  let k := centre / step
  match b.holds k p, b.holds (k + 1) p with
  | true, true => some ⟨Binary64.roundQuotient centre step, p⟩
  | true, false => some ⟨k, p⟩
  | false, true => some ⟨k + 1, p⟩
  | false, false => none

/-- The power of ten of the first digit of the basin's centre. -/
def Basin.leadingPlace (b : Basin) : Int :=
  (Decimal.digitCount (b.centre * Nat.pow 10 400 / (1 <<< 1076)) : Int) - 401

/-- Tries the grids of `count`, `count + 1`, … digits, `fuel` of them, and takes the first hit. -/
def Basin.search (b : Basin) : (fuel count : Nat) → Decimal
  | 0, count => ⟨0, count⟩
  | fuel + 1, count =>
    match b.nearest? (b.leadingPlace - count + 1) with
    | some d => d
    | none => b.search fuel (count + 1)

/-- The decimal of fewest digits that reads back as the absolute value of the number; seventeen
digits always do.  Zero has the digit zero. -/
def shortest (x : Binary64) : Decimal :=
  if x.isZero then ⟨0, 0⟩ else (x.basin.search 17 1).stripZeros 17

end Binary64

end FieldRules
