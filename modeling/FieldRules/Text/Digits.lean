/-!
# Digits

Decimal numerals and hexadecimal digits, all of them ASCII.  A *numeral* is a nonempty row of
decimal digits; `index?` reads a list position from one.
-/

set_option autoImplicit false

namespace FieldRules.Text

/-- Whether the characters are a nonempty row of decimal digits. -/
def isNumeral (cs : List Char) : Bool :=
  !cs.isEmpty && cs.all Char.isDigit

/-- The number that a row of decimal digits denotes; the empty row denotes zero. -/
def numeralValue (cs : List Char) : Nat :=
  Nat.ofDigitChars 10 cs 0

/-- The decimal numeral of a number, without leading zeros. -/
def numeral (n : Nat) : String :=
  Nat.repr n

/-- The bound of the numbers that a 64-bit word holds. -/
def wordBound : Nat := 1 <<< 64

/-- The list position that a text denotes: a numeral below `wordBound`, leading zeros allowed, with
at most one plus sign before it. -/
def index? (s : String) : Option Nat :=
  let digits := match s.toList with
    | '+' :: rest => rest
    | cs => cs
  if isNumeral digits ∧ numeralValue digits < wordBound then
    some (numeralValue digits)
  else
    none

/-- The value of a hexadecimal digit in either case. -/
def hexValue? (c : Char) : Option Nat :=
  if '0' ≤ c ∧ c ≤ '9' then some (c.toNat - 48)
  else if 'a' ≤ c ∧ c ≤ 'f' then some (c.toNat - 87)
  else if 'A' ≤ c ∧ c ≤ 'F' then some (c.toNat - 55)
  else none

/-- The number that a row of hexadecimal digits denotes, if all of it are such digits. -/
def hexNumber? (cs : List Char) : Option Nat :=
  cs.foldlM (fun n c => (hexValue? c).map (16 * n + ·)) 0

/-- The digit of a number below sixteen, letters in lower case. -/
def hexDigit (n : Nat) : Char :=
  if n < 10 then Char.ofNat (48 + n) else Char.ofNat (87 + n)

/-- The character with the given code point, if there is one. -/
def char? (n : Nat) : Option Char :=
  if h : n.isValidChar then some (Char.ofNatAux n h) else none

end FieldRules.Text
