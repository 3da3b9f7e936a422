import FieldRules.Text.Digits

/-!
# Percent-encoded bytes

A percent sign with two hexadecimal digits after it stands for the byte with that number.  A percent
sign without them stands for itself.
-/

set_option autoImplicit false

namespace FieldRules.Text

/-- The number that two hexadecimal digits denote, given as bytes. -/
def hexPair? (high low : UInt8) : Option UInt8 := do
  let h ← hexValue? (Char.ofNat high.toNat)
  let l ← hexValue? (Char.ofNat low.toNat)
  return UInt8.ofNat (16 * h + l)

/-- Replaces each percent sign and the two hexadecimal digits after it by the byte they stand for.
-/
def percentDecode : List UInt8 → List UInt8
  | [] => []
  | [a] => [a]
  | [a, b] => [a, b]
  | a :: high :: low :: rest =>
    if a = 0x25 then
      match hexPair? high low with
      | some byte => byte :: percentDecode rest
      | none => a :: percentDecode (high :: low :: rest)
    else
      a :: percentDecode (high :: low :: rest)

end FieldRules.Text
