import FieldRules.Text.Digits
import FieldRules.Text.Split

/-!
# Ranges of code points

A set of characters as the list of its ranges of code points, ends included, from low to high.  The
tables of the Unicode properties are kept packed, as texts of hexadecimal numbers: for each range
the gap to the one before it, then how many code points follow its first.
-/

set_option autoImplicit false

namespace FieldRules.Unicode

/-- Ranges of code points, ends included, from low to high. -/
abbrev Ranges : Type := List (Nat × Nat)

/-- The hexadecimal numbers of a text, in order; `pending` is the number being read. -/
def packedNumbers : (pending : Option Nat) → List Char → List Nat
  | none, [] => []
  | some n, [] => [n]
  | pending, c :: rest =>
    match Text.hexValue? c, pending with
    | some d, none => packedNumbers (some d) rest
    | some d, some n => packedNumbers (some (16 * n + d)) rest
    | none, none => packedNumbers none rest
    | none, some n => n :: packedNumbers none rest

/-- The ranges that gaps and lengths describe, the first gap counted from `start`. -/
def Ranges.ofGaps (start : Nat) : List Nat → Ranges
  | gap :: extent :: rest =>
    (start + gap, start + gap + extent) :: Ranges.ofGaps (start + gap + extent + 1) rest
  | _ => []

/-- The ranges that a packed table describes. -/
def Ranges.unpack (table : String) : Ranges :=
  Ranges.ofGaps 0 (packedNumbers none table.toList)

/-- The rows of hexadecimal numbers of a text, apart by commas. -/
def packedRecords (table : String) : List (List Nat) :=
  (Text.splitOn ',' table.toList).map (packedNumbers none)

/-! ## Sets -/

/-- The ranges with those that touch made one, `current` before them. -/
def Ranges.joinFrom (current : Nat × Nat) : Ranges → Ranges
  | [] => [current]
  | r :: rest =>
    if r.1 ≤ current.2 + 1 then Ranges.joinFrom (current.1, max current.2 r.2) rest
    else current :: Ranges.joinFrom r rest

/-- The union of two sets. -/
def Ranges.union (a b : Ranges) : Ranges :=
  match List.merge a b fun r s => decide (r.1 ≤ s.1) with
  | [] => []
  | r :: rest => Ranges.joinFrom r rest

/-- The greatest code point. -/
def maxCodePoint : Nat := 0x10FFFF

/-- The code points from `start` on that are in none of the ranges. -/
def Ranges.gapsFrom (start : Nat) : Ranges → Ranges
  | [] => if start ≤ maxCodePoint then [(start, maxCodePoint)] else []
  | r :: rest =>
    if start < r.1 then (start, r.1 - 1) :: Ranges.gapsFrom (r.2 + 1) rest
    else Ranges.gapsFrom (r.2 + 1) rest

/-- The complement of a set. -/
def Ranges.compl (a : Ranges) : Ranges :=
  Ranges.gapsFrom 0 a

/-- The intersection of two sets. -/
def Ranges.inter (a b : Ranges) : Ranges :=
  (a.compl.union b.compl).compl

/-- The set of some code points. -/
def Ranges.ofList (codes : List Nat) : Ranges :=
  match (codes.mergeSort).map fun n => (n, n) with
  | [] => []
  | r :: rest => Ranges.joinFrom r rest

/-- Whether a character is in one of the ranges. -/
def Ranges.contains (rs : Ranges) (c : Char) : Bool :=
  rs.any fun r => r.1 ≤ c.toNat && c.toNat ≤ r.2

end FieldRules.Unicode
