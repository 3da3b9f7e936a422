import FieldRules.Number.Binary64
import FieldRules.Entries

/-!
# JSON values

The values that rules look at.  Objects keep their entries in order, and integers are kept apart
from floating-point numbers.  `Json.same` is equality up to the order of object entries; an integer
is never the same as a floating-point number.
-/

set_option autoImplicit false

namespace FieldRules

/-- An integer that a signed or an unsigned 64-bit word holds. -/
structure WordInt where
  /-- The integer. -/
  val : Int
  ge : -(1 <<< 63 : Nat) ≤ val := by decide
  lt : val < (1 <<< 64 : Nat) := by decide
deriving DecidableEq

/-- The integer as a `WordInt`, if a word holds it. -/
def WordInt.ofInt? (n : Int) : Option WordInt :=
  if h : -(1 <<< 63 : Nat) ≤ n ∧ n < (1 <<< 64 : Nat) then some ⟨n, h.1, h.2⟩ else none

/-- A JSON number. -/
inductive Number where
  /-- An integer. -/
  | int (n : WordInt)
  /-- A floating-point number. -/
  | float (x : Binary64)
deriving DecidableEq

namespace Number

/-- Whether two numbers are equal and of the same kind. -/
def same : Number → Number → Bool
  | .int m, .int n => m.val == n.val
  | .float x, .float y => x.same y
  | _, _ => false

/-- The floating-point number nearest to a number. -/
def toBinary64? : Number → Option Binary64
  | .int n => Binary64.ofInt? n.val
  | .float x => some x

end Number

/-- A JSON value. -/
inductive Json where
  | null
  | bool (b : Bool)
  | number (n : Number)
  | string (s : String)
  | array (items : List Json)
  | object (entries : List (String × Json))
deriving Inhabited

namespace Json

/-- The empty object. -/
def emptyObject : Json := .object []

/-- Whether a value is null. -/
def isNull : Json → Bool
  | .null => true
  | _ => false

/-- What a value is called in messages. -/
def kind : Json → String
  | .null => "null"
  | .bool _ => "boolean"
  | .number _ => "number"
  | .string _ => "string"
  | .array _ => "list"
  | .object _ => "map"

mutual

/-- Whether two values are equal, the entries of objects compared without regard to order. -/
def same : Json → Json → Bool
  | .null, .null => true
  | .bool a, .bool b => a == b
  | .number a, .number b => a.same b
  | .string a, .string b => a == b
  | .array xs, .array ys => sameItems xs ys
  | .object xs, .object ys => xs.length == ys.length && sameEntries xs ys
  | _, _ => false

/-- Whether two lists have the same values, place by place. -/
def sameItems : List Json → List Json → Bool
  | [], [] => true
  | x :: xs, y :: ys => same x y && sameItems xs ys
  | _, _ => false

/-- Whether every entry of the first list has the same value under its key in the second. -/
def sameEntries : List (String × Json) → List (String × Json) → Bool
  | [], _ => true
  | (k, x) :: xs, ys =>
    (match Entries.get? k ys with
      | some y => same x y
      | none => false) && sameEntries xs ys

end

/-- The list elements as entries under their positions. -/
def indexed (items : List Json) : Entries Json :=
  Entries.ofList Nat.repr items

end Json

end FieldRules
