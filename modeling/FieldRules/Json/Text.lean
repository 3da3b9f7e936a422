import FieldRules.Json.Basic
import FieldRules.Number.Decimal
import FieldRules.Text.Digits

/-!
# The compact text of a JSON value

`Json.render` writes a value without blanks, object entries in their order.  A floating-point number
is written by its shortest decimal: positionally, with a fraction, where its first digit stands
between the places `10 ^ -5` and `10 ^ 15`, and else with a signed exponent.
-/

set_option autoImplicit false

namespace FieldRules

namespace Number

/-- The digits with a point after the first `places` of them, with zeros where digits are missing
and at least one digit on each side. -/
def positional (digits : List Char) (places : Int) : List Char :=
  if places ≤ 0 then
    '0' :: '.' :: (List.replicate (-places).toNat '0' ++ digits)
  else
    let whole := digits.take places.toNat
    let fraction := digits.drop places.toNat
    whole ++ List.replicate (places.toNat - digits.length) '0' ++
      '.' :: (if fraction.isEmpty then ['0'] else fraction)

/-- The digits with a point after the first, if there are more, and the given power of ten. -/
def scientific (digits : List Char) (exponent : Int) : List Char :=
  let mantissa := match digits with
    | first :: second :: rest => first :: '.' :: second :: rest
    | _ => digits
  mantissa ++ 'e' :: (if exponent < 0 then '-' else '+') :: (Nat.repr exponent.natAbs).toList

/-- The text of a floating-point number. -/
def renderFloat (x : Binary64) : String :=
  let d := x.shortest
  let digits := (Nat.repr d.digits).toList
  let leading : Int := d.exponent + digits.length - 1
  let body :=
    if -5 ≤ leading ∧ leading < 16 then
      positional digits (leading + 1)
    else
      scientific digits leading
  String.ofList (if x.negative then '-' :: body else body)

/-- The text of a number. -/
def render : Number → String
  | .int n => toString n.val
  | .float x => renderFloat x

end Number

namespace Json

/-- A character inside a quoted text. -/
def escape (c : Char) : List Char :=
  if c = '"' then ['\\', '"']
  else if c = '\\' then ['\\', '\\']
  else if c = '\n' then ['\\', 'n']
  else if c = '\r' then ['\\', 'r']
  else if c = '\t' then ['\\', 't']
  else if c.toNat = 8 then ['\\', 'b']
  else if c.toNat = 12 then ['\\', 'f']
  else if c.toNat < 0x20 then
    ['\\', 'u', '0', '0', Text.hexDigit (c.toNat / 16), Text.hexDigit (c.toNat % 16)]
  else [c]

/-- A text in quotation marks. -/
def quote (s : String) : String :=
  String.ofList ('"' :: (s.toList.flatMap escape ++ ['"']))

mutual

/-- The compact text of a value. -/
def render : Json → String
  | .null => "null"
  | .bool b => if b then "true" else "false"
  | .number n => n.render
  | .string s => quote s
  | .array items => "[" ++ String.intercalate "," (renderItems items) ++ "]"
  | .object entries => "\x7b" ++ String.intercalate "," (renderEntries entries) ++ "\x7d"

/-- The texts of the values of a list. -/
def renderItems : List Json → List String
  | [] => []
  | x :: rest => render x :: renderItems rest

/-- The texts of object entries. -/
def renderEntries : List (String × Json) → List String
  | [] => []
  | (k, v) :: rest => (quote k ++ ":" ++ render v) :: renderEntries rest

end

end Json

end FieldRules
