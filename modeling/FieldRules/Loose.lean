import FieldRules.Json.Basic
import FieldRules.Number.Decimal
import FieldRules.Text.Digits
import FieldRules.Text.Space
import FieldRules.Text.Split

/-!
# Loose readings

Request data comes as text more often than as numbers, so numbers are accepted in both forms.
`NumericText` is a text that is a number: an optional sign, digits with an optional point among
them, and an optional exponent, with white space around it.
-/

set_option autoImplicit false

namespace FieldRules

/-- The parts of a text that is a number. -/
structure NumericText where
  negative : Bool
  /-- The digits before the point. -/
  whole : List Char
  /-- The digits after the point. -/
  fraction : List Char
  exponent : Int
deriving DecidableEq, Repr

namespace NumericText

/-- Takes a sign off the front: whether it is a minus, and the rest. -/
def splitSign : List Char → Bool × List Char
  | '-' :: rest => (true, rest)
  | '+' :: rest => (false, rest)
  | cs => (false, cs)

/-- Reads the digits of a number, with at most one point among them and at least one digit. -/
def digits? (cs : List Char) : Option (List Char × List Char) :=
  let (whole, fraction) := (Text.splitFirst? (· == '.') cs).getD (cs, [])
  if whole.all Char.isDigit ∧ fraction.all Char.isDigit ∧ ¬(whole.isEmpty ∧ fraction.isEmpty) then
    some (whole, fraction)
  else
    none

/-- Reads an exponent: digits after an optional sign. -/
def exponent? (cs : List Char) : Option Int :=
  let (negative, digits) := splitSign cs
  if Text.isNumeral digits then
    let n : Int := Text.numeralValue digits
    some (if negative then -n else n)
  else
    none

/-- Reads a number without white space around it. -/
def ofTrimmed? (cs : List Char) : Option NumericText := do
  let (negative, body) := splitSign cs
  match Text.splitFirst? (fun c => c == 'e' || c == 'E') body with
  | some (mantissa, marked) =>
    let (whole, fraction) ← digits? mantissa
    let exponent ← exponent? marked
    return ⟨negative, whole, fraction, exponent⟩
  | none =>
    let (whole, fraction) ← digits? body
    return ⟨negative, whole, fraction, 0⟩

/-- Reads a number. -/
def ofText? (s : String) : Option NumericText :=
  ofTrimmed? (Text.trim s.toList)

/-- The decimal that the text denotes, but for its sign. -/
def decimal (t : NumericText) : Decimal :=
  ⟨Text.numeralValue (t.whole ++ t.fraction), t.exponent - t.fraction.length⟩

/-- The number nearest to the one that the text denotes, none if it is too large. -/
def value? (t : NumericText) : Option Binary64 :=
  Binary64.ofDecimal? t.negative t.decimal

end NumericText

namespace Json

/-- The number that a text denotes, rounded. -/
def textNumber? (s : String) : Option Binary64 :=
  (NumericText.ofText? s).bind NumericText.value?

/-- The number that a value is or denotes, rounded. -/
def number? : Json → Option Binary64
  | .number n => n.toBinary64?
  | .string s => textNumber? s
  | _ => none

/-- The integer that a floating-point number is, if it is one and a signed word holds it. -/
def floatInteger? (x : Binary64) : Option Int :=
  x.toInt?.filter fun n => n.natAbs < 1 <<< 63

/-- The integer that a value is or denotes, if a signed word holds it.  A text is rounded first. -/
def integer? : Json → Option Int
  | .number (.int n) => if n.val < (1 <<< 63 : Nat) then some n.val else none
  | .number (.float x) => floatInteger? x
  | .string s => (textNumber? s).bind floatInteger?
  | _ => none

/-- Whether a value switches something on: null, false, zero, the texts `""` and `"0"`, and empty
lists and objects do not. -/
def truthy : Json → Bool
  | .null => false
  | .bool b => b
  | .number (.int n) => n.val != 0
  | .number (.float x) => !x.isZero
  | .string s => !(s == "" || s == "0")
  | .array items => !items.isEmpty
  | .object entries => !entries.isEmpty

/-- Whether two values are equal, numbers and texts that are numbers compared by value unless both
are texts. -/
def looseSame (a b : Json) : Bool :=
  match a, b with
  | .number _, .number _ | .number _, .string _ | .string _, .number _ =>
    match a.number?, b.number? with
    | some x, some y => x.same y
    | _, _ => a.same b
  | _, _ => a.same b

end Json

end FieldRules
