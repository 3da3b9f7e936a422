/-!
# Binary floating point

`Binary64` is the type of the finite numbers of the 64-bit binary format.  Every one of them is a
multiple of `2 ^ -1074`, so `units` gives its value as an integer, and two numbers compare as their
`units` do.  `ofRatio?` rounds a quotient of naturals to the nearest such number, a tie to the even
significand, and products and quotients are rounded by it.
-/

set_option autoImplicit false

namespace FieldRules

/-- A finite number of the 64-bit binary format: `± significand · 2 ^ scale / 2 ^ 1074`. -/
structure Binary64 where
  /-- Whether the number has a minus sign; zero may have one. -/
  negative : Bool
  /-- The digits of the number, read as an integer. -/
  significand : Nat
  /-- The power of two, above the least, that the significand counts. -/
  scale : Nat
  significand_lt : significand < 1 <<< 53
  scale_le : scale ≤ 2045
  normal : scale = 0 ∨ 1 <<< 52 ≤ significand
deriving DecidableEq

namespace Binary64

/-- The number zero, without a sign. -/
def zero : Binary64 :=
  ⟨false, 0, 0, by decide, by decide, .inl rfl⟩

/-- The absolute value, counted in units of `2 ^ -1074`. -/
def magnitude (x : Binary64) : Nat :=
  x.significand <<< x.scale

/-- The value, counted in units of `2 ^ -1074`. -/
def units (x : Binary64) : Int :=
  if x.negative then -(x.magnitude : Int) else x.magnitude

/-- Whether two numbers have the same value; the two zeros do. -/
def same (x y : Binary64) : Bool :=
  x.units == y.units

/-- Whether the first number is smaller. -/
def lt (x y : Binary64) : Bool :=
  decide (x.units < y.units)

/-- Whether the number is one of the two zeros. -/
def isZero (x : Binary64) : Bool :=
  x.significand == 0

/-- The integer that the number is, if it is one. -/
def toInt? (x : Binary64) : Option Int :=
  if x.magnitude % (1 <<< 1074) = 0 then
    let n : Int := (x.magnitude / (1 <<< 1074) : Nat)
    some (if x.negative then -n else n)
  else
    none

/-- The integer nearest to `n / d`, the even one of two. -/
def roundQuotient (n d : Nat) : Nat :=
  let q := n / d
  let r := n % d
  if d < 2 * r ∨ (d = 2 * r ∧ q % 2 = 1) then q + 1 else q

/-- The number with the given digits and scale, if they are in range and in normal form. -/
def ofFields? (negative : Bool) (significand scale : Nat) : Option Binary64 :=
  if h : significand < 1 <<< 53 ∧ scale ≤ 2045 ∧ (scale = 0 ∨ 1 <<< 52 ≤ significand) then
    some ⟨negative, significand, scale, h.1, h.2.1, h.2.2⟩
  else
    none

/-- The number nearest to `n / d`, a tie going to the even significand; none if it is too large. -/
def ofRatio? (negative : Bool) (n d : Nat) : Option Binary64 :=
  let units := n <<< 1074
  let scale := (units / d).log2 + 1 - 53
  let significand := roundQuotient units (d <<< scale)
  if significand = 1 <<< 53 then
    ofFields? negative (1 <<< 52) (scale + 1)
  else
    ofFields? negative significand scale

/-- The number nearest to an integer. -/
def ofInt? (n : Int) : Option Binary64 :=
  ofRatio? (decide (n < 0)) n.natAbs 1

/-- The number with the other sign. -/
def neg (x : Binary64) : Binary64 :=
  { x with negative := !x.negative }

/-- The number nearest to the product, none if it is too large. -/
def mul? (x y : Binary64) : Option Binary64 :=
  ofRatio? (x.negative != y.negative) (x.magnitude * y.magnitude) (1 <<< 2148)

/-- The number nearest to the quotient, none if it is too large or the divisor is zero. -/
def div? (x y : Binary64) : Option Binary64 :=
  if y.isZero then none else ofRatio? (x.negative != y.negative) x.magnitude y.magnitude

end Binary64

end FieldRules
