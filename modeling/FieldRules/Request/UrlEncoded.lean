import FieldRules.Text.Percent
import FieldRules.Text.Split
import FieldRules.Text.Utf8

/-!
# Urlencoded pairs

Queries and form bodies are rows of `key=value` pairs with ampersands between them.  A plus sign is
a blank, and other bytes may be percent-encoded.
-/

set_option autoImplicit false

namespace FieldRules.UrlEncoded

/-- The text that a key or a value is written as. -/
def decode (bytes : List UInt8) : String :=
  String.ofList
    (Utf8.decodeLossy (Text.percentDecode (bytes.map fun b => if b = 0x2B then 0x20 else b)))

/-- The pair that a piece between ampersands holds; without an equals sign the value is empty. -/
def pair (piece : List UInt8) : String × String :=
  match Text.splitFirst? (· == 0x3D) piece with
  | some (key, value) => (decode key, decode value)
  | none => (decode piece, "")

/-- The pairs of a query or a form body, in order.  Empty pieces hold none. -/
def pairs (bytes : List UInt8) : List (String × String) :=
  ((Text.splitOn 0x26 bytes).filter fun piece => !piece.isEmpty).map pair

end FieldRules.UrlEncoded
