import FieldRules.Unicode.Ranges

/-!
# Rows of byte ranges

The encodings of a range of characters in UTF-8 are what a few rows of byte ranges describe: a row
stands for the encodings whose first byte is in its first range, whose second byte is in its second
range, and so on.  `Ranges.byteRows` gives the rows of a set of characters, in the order of the
encodings.
-/

set_option autoImplicit false

namespace FieldRules.Unicode

/-- Ranges of bytes, ends included, one for each byte of an encoding. -/
abbrev ByteRow : Type := List (Nat × Nat)

/-- The rows of the numbers from `low` to `high`, each written as one byte that begins with the bits
of `mark` and `more` bytes of six bits each after it. -/
def byteRowsOf : (more mark low high : Nat) → List ByteRow
  | 0, mark, low, high => [[(mark + low, mark + high)]]
  | more + 1, mark, low, high =>
    let unit := 1 <<< (6 * (more + 1))
    let a := low / unit
    let b := high / unit
    let below (first low high : Nat) : List ByteRow :=
      (byteRowsOf more 0x80 low high).map ((mark + first, mark + first) :: ·)
    if a = b then below a (low % unit) (high % unit)
    else
      let whole := List.replicate (more + 1) (0x80, 0xBF)
      let (start, head) :=
        if low % unit = 0 then (a, []) else (a + 1, below a (low % unit) (unit - 1))
      let (stop, tail) :=
        if high % unit = unit - 1 then (b + 1, []) else (b, below b 0 (high % unit))
      let middle := if start < stop then [(mark + start, mark + (stop - 1)) :: whole] else []
      head ++ middle ++ tail

/-- The code points whose encodings have one form: the first and the last of them, how many bytes
follow the first byte, and the bits that the first byte begins with.  Surrogates have none. -/
def encodingForms : List (Nat × Nat × Nat × Nat) :=
  [(0, 0x7F, 0, 0), (0x80, 0x7FF, 1, 0xC0), (0x800, 0xD7FF, 2, 0xE0), (0xE000, 0xFFFF, 2, 0xE0),
    (0x10000, 0x10FFFF, 3, 0xF0)]

/-- The rows of a set of characters. -/
def Ranges.byteRows (rs : Ranges) : List ByteRow :=
  rs.flatMap fun (low, high) =>
    encodingForms.flatMap fun (first, last, more, mark) =>
      if max low first ≤ min high last then
        byteRowsOf more mark (max low first) (min high last)
      else
        []

end FieldRules.Unicode
